import Estree.Proofs.Outline.Bounded
import Estree.Proofs.Outline.Hiding

/-!
# Outlines and the reports on their walks

The walk that makes an outline counts what happens on it, and the visitor keeps entries. Neither
knows of the other: all that is said between them is whether to descend. Still, the two accounts can
be compared. Each node that is reached gets its entry, until the visitor is asked to stop. After
that nothing is recorded, but the walk goes on through the slots that are open; it reaches nodes
there, makes placeholders, and is told not to descend.

So what is reached is what has an entry, and then what is passed over. The visitor declines to
descend where it hides children and at what is passed over, hence what is reported as unknown is
about entries only.

* `Outline.passedOver`: what is reached after the outline was stopped;
* `Outline.accounts`: what some calls add to the entries, and what they pass over;
* `Arena.outline_accounts`: the report and the entries of an outline.
-/

namespace Estree

open Progress (Quantity Receiver)
open Relation (ReflTransGen)
open Walk (Call Scene Traverses descents logging shown told unknownKind? visits)

namespace Outline

variable {α σ : Type} [Quantity α] {s : Settings} {r : Receiver α σ}

/-- What is shown to the visitor of an outline that has been stopped, or is stopped by that. -/
def passedOver (s : Settings) (r : Receiver α σ) : Draft σ → List Call → List (Arena × NodeId)
  | _, [] => []
  | d, .before a id :: calls =>
    let d' := ((visitor s r).before a id d).2
    if d'.canceled then (a, id) :: passedOver s r d' calls else passedOver s r d' calls
  | d, .after a id :: calls => passedOver s r ((visitor s r).after a id d) calls

/-- Some calls lead from the draft `d` to `d'`. They add the entries `more`, one for each of the
first nodes they show, and the other ones are passed over. -/
structure Accounts (s : Settings) (r : Receiver α σ) (calls : List Call) (d d' : Draft σ)
    (more : List Entry) : Prop where
  entries : d'.entries.toList = d.entries.toList ++ more
  stopped : d.canceled = true → more = []
  canceled : d'.canceled = true ↔ d.canceled = true ∨ passedOver s r d calls ≠ []
  shown : (visits calls).length = more.length + (passedOver s r d calls).length
  into : (descents (visitor s r) d calls).length + more.countP (fun e => 0 < e.hidden) =
    more.length
  unknown : (descents (visitor s r) d calls).filterMap (fun p => unknownKind? p.1 p.2) =
    (more.zip (visits calls)).filterMap unknown?
  synthetic : (Walk.shown calls).countP (fun p => (p.1.node p.2).synthetic) =
    more.countP (·.synthetic) +
      (passedOver s r d calls).countP fun p => (p.1.node p.2).synthetic

variable {d d' : Draft σ} {a : Arena} {id : NodeId} {calls : List Call} {more : List Entry}

/-- A node at which the outline has been stopped is passed over. -/
theorem Accounts.halt (hstop : d.canceled = true ∨ r.isCanceled d.progress = true)
    (h : Accounts s r calls d.halt d' more) : Accounts s r (.before a id :: calls) d d' more := by
  have hbefore := visitor_halt (s := s) hstop a id
  have hmore : more = [] := h.stopped rfl
  have hover : passedOver s r d (.before a id :: calls) =
      (a, id) :: passedOver s r d.halt calls := by
    rw [passedOver, hbefore]
    rfl
  have hinto : descents (visitor s r) d (.before a id :: calls) =
      descents (visitor s r) d.halt calls := Walk.descents_skip hbefore calls
  obtain ⟨hentries, -, hcanceled, hshown, hinto', hunknown, hsynthetic⟩ := h
  subst hmore
  refine ⟨hentries, fun _ => rfl, ?_, ?_, ?_, ?_, ?_⟩
  · exact iff_of_true (hcanceled.mpr (.inl rfl)) (.inr (hover ▸ List.cons_ne_nil _ _))
  · rw [hover, Walk.visits_before, List.length_cons, List.length_cons, hshown, Nat.add_assoc]
  · rw [hinto, hinto']
  · rw [hinto, hunknown, List.zip_nil_left, List.zip_nil_left]
  · rw [hover, Walk.shown_before, List.countP_cons, List.countP_cons, hsynthetic, Nat.add_assoc]

/-- A node that is recorded has the first of the entries. If some of its children are hidden the
visitor declines to descend, and then the kind of the node is known. -/
theorem Accounts.record {answer : Visit} {hidden remaining : Nat} (hc : d.canceled = false)
    (hbefore : (visitor s r).before a id d = (answer, arrive r a id hidden remaining d))
    (hanswer : answer = .skip ∧ 0 < hidden ∧ a.childSlots id ≠ none ∨
      answer = .descend ∧ hidden = 0)
    (h : Accounts s r calls (arrive r a id hidden remaining d) d' more) :
    Accounts s r (.before a id :: calls) d d'
      (entryOf a id (countDown d.frames) hidden :: more) := by
  set e := entryOf a id (countDown d.frames) hidden with he
  have hafter : (arrive r a id hidden remaining d).canceled = false := hc
  have hover : passedOver s r d (.before a id :: calls) =
      passedOver s r (arrive r a id hidden remaining d) calls := by
    rw [passedOver, hbefore]
    simp [hafter]
  have hkind : unknown? (e, id) = unknownKind? a id := by
    simp [unknown?, unknownKind?, he, entryOf, Walk.childSlots_eq_none_iff,
      Walk.walkOrder_eq_none_iff]
  obtain ⟨hentries, -, hcanceled, hshown, hinto', hunknown, hsynthetic⟩ := h
  refine ⟨?_, fun hcanceled => absurd (hc.symm.trans hcanceled) Bool.false_ne_true, ?_, ?_, ?_, ?_,
    ?_⟩
  · rw [hentries, List.append_cons]
    exact congrArg (· ++ more) Array.toList_push
  · rw [hcanceled, hover, hafter, hc]
  · rw [hover, Walk.visits_before, List.length_cons, List.length_cons, hshown]
    omega
  · rcases hanswer with ⟨rfl, hpos, -⟩ | ⟨rfl, rfl⟩
    · rw [Walk.descents_skip hbefore, List.countP_cons_of_pos (by simpa [he, entryOf] using hpos),
        List.length_cons, ← hinto', Nat.add_assoc]
    · rw [Walk.descents_descend hbefore, List.countP_cons_of_neg (by simp [he, entryOf]),
        List.length_cons, List.length_cons, ← hinto', Nat.add_right_comm]
  · rw [Walk.visits_before, List.zip_cons_cons, List.filterMap_cons, hkind, ← hunknown]
    rcases hanswer with ⟨rfl, -, hslots⟩ | ⟨rfl, -⟩
    · rw [Walk.descents_skip hbefore, unknownKind?, if_neg hslots]
    · rw [Walk.descents_descend hbefore, List.filterMap_cons]
  · have hsyn : e.synthetic = (a.node id).synthetic := rfl
    rw [hover, Walk.shown_before, List.countP_cons, List.countP_cons, hsynthetic, hsyn,
      Nat.add_right_comm]

/-- **What some calls come to**: entries for the first nodes they show, until the outline is
stopped, and nodes that are passed over. -/
theorem accounts (s : Settings) (r : Receiver α σ) (calls : List Call) (d : Draft σ) :
    ∃ more, Accounts s r calls d (told (visitor s r) d calls) more := by
  induction calls generalizing d with
  | nil => exact ⟨[], by simp, fun _ => rfl, by simp [passedOver], rfl, rfl, rfl, rfl⟩
  | cons call calls ih =>
    cases call with
    | after a id =>
      obtain ⟨more, h⟩ := ih d.left
      exact ⟨more, { h with }⟩
    | before a id =>
      rw [Walk.told_cons, Walk.tell_before]
      by_cases hstop : d.canceled = true ∨ r.isCanceled d.progress = true
      · obtain ⟨more, h⟩ := ih d.halt
        rw [visitor_halt hstop]
        exact ⟨more, h.halt hstop⟩
      · obtain ⟨hc, hnow⟩ := not_or.mp hstop
        rw [Bool.not_eq_true] at hc hnow
        have hbefore := visitor_going (s := s) hc hnow a id
        split at hbefore
        · next hhides =>
          obtain ⟨more, h⟩ := ih (arrive r a id (visible s a id).length 0 d)
          have hslots : a.childSlots id ≠ none := by
            intro hnone
            refine hhides.1 ?_
            rw [visible, hnone]
            rfl
          rw [hbefore]
          exact ⟨_, h.record hc hbefore
            (.inl ⟨rfl, List.length_pos_iff.mpr hhides.1, hslots⟩)⟩
        · obtain ⟨more, h⟩ := ih (arrive r a id 0 (visible s a id).length d)
          rw [hbefore]
          exact ⟨_, h.record hc hbefore (.inr ⟨rfl, rfl⟩)⟩

/-- Nothing is passed over if nobody asks to stop. -/
theorem passedOver_running (h : d.Running r) (calls : List Call) : passedOver s r d calls = [] := by
  induction calls generalizing d with
  | nil => rfl
  | cons call calls ih =>
    cases call with
    | after a id => exact ih h.left
    | before a id =>
      have hbefore : ∃ hidden remaining,
          ((visitor s r).before a id d).2 = arrive r a id hidden remaining d := by
        rw [visitor_before h.canceled h.quiet]
        split <;> exact ⟨_, _, rfl⟩
      obtain ⟨hidden, remaining, hbefore⟩ := hbefore
      have hafter := h.arrive a id hidden remaining
      rw [passedOver, hbefore, hafter.canceled, if_neg Bool.false_ne_true]
      exact ih hafter

end Outline

/-! ### Placeholders that are shown -/

namespace Walk

variable {σ : Type} {v : Visitor σ} {nulls : Bool} {a : Arena} {root : NodeId} {m : σ}
  {calls : List Call} {u : Scene σ}

/-- **The placeholders that a walk reports are those that it shows.** Where it makes any, what is
below the root must be in the arena, or else a placeholder might get in its place. -/
theorem Traverses.synthesized_eq
    (ht : Traverses v nulls none [some root] (.start a m) calls u) (ha : a.Unfilled)
    (hin : nulls = true → ∀ id, ReflTransGen a.HasSlot root id → id < a.size) :
    u.report.synthesized = (shown calls).countP fun p => (p.1.node p.2).synthetic := by
  have hzero : (Scene.start a m).report.synthesized = 0 := rfl
  cases nulls with
  | false =>
    -- there are none, neither made nor there before
    obtain ⟨-, -, -, hsynthesized⟩ := ht.report_eq fun hmem => nomatch List.mem_singleton.mp hmem
    obtain ⟨-, halike⟩ := ht.alike (.refl a)
    rw [hsynthesized, hzero, if_neg Bool.false_ne_true, eq_comm, List.countP_eq_zero]
    intro p hp
    have hp' : a.Alike p.1 := halike _ (before_mem_of_shown hp)
    rw [← hp'.synthetic, ha]
    exact Bool.false_ne_true
  | true =>
    have hroot : ∀ id, some id ∈ [some root] → ReflTransGen a.HasSlot root id := by
      intro id hid
      rw [Option.some.inj (List.mem_singleton.mp hid)]
    obtain ⟨-, hsynthesized⟩ := ht.report_counts (S := ReflTransGen a.HasSlot root) (hin rfl)
      (fun p id hp hslot => hp.tail hslot) (.refl a) hroot
    have hlt := ht.node_lt (hin rfl) (.refl a) (List.forall_mem_singleton.mpr rfl)
    obtain ⟨-, hgrown⟩ := ht.grown (.refl a)
    rw [hsynthesized, hzero, Nat.zero_add, ← map_shown, List.countP_map]
    refine List.countP_congr fun p hp => ?_
    have hcall := before_mem_of_shown hp
    have hp' : p.2 < p.1.size := hlt _ hcall
    have hg : a.Grown p.1 := hgrown _ hcall
    by_cases hid : a.size ≤ p.2
    · simp [hid, hg.synthetic_placeholder hid hp']
    · have hreal := Arena.synthetic_of_orphan (hg.real p.2 (Nat.lt_of_not_le hid))
      simp [hid, hreal, ha p.2]

end Walk

namespace Arena

open Outline

variable {α σ : Type} [Quantity α] {a : Arena} {s : Settings} {r : Receiver α σ} {steps : Nat}
  {root : NodeId} {progress : σ}

/-- The calls that an outline makes account for its entries. -/
theorem outline_accounted (hc : (a.outline s r steps root progress).complete) :
    ∃ calls u,
      Traverses (visitor s r) s.nulls none [some root] (.start a (blank r a progress)) calls u ∧
      (a.outline s r steps root progress).outline =
        ⟨u.memory.entries, u.report, u.memory.canceled⟩ ∧
      Accounts s r calls (blank r a progress) u.memory u.memory.entries.toList := by
  obtain ⟨calls, u, ht, -⟩ := Walk.traverses_of_complete hc
  have htold : u.memory = told (visitor s r) (blank r a progress) calls := ht.memory_eq
  obtain ⟨more, hmore⟩ := accounts s r calls (blank r a progress)
  rw [← htold] at hmore
  have hentries : u.memory.entries.toList = more := hmore.entries.trans (List.nil_append more)
  exact ⟨calls, u, ht, outline_of_traverses hc ht, hentries.symm ▸ hmore⟩

/-- If nobody asks to stop, each node that is reached has an entry. -/
theorem outline_visited (hq : NeverCancels r progress)
    (hc : (a.outline s r steps root progress).complete) :
    (a.outline s r steps root progress).outline.canceled = false ∧
    (a.outline s r steps root progress).outline.walk.visited =
      (a.outline s r steps root progress).outline.entries.size := by
  obtain ⟨calls, u, ht, hout, hmore⟩ := outline_accounted hc
  obtain ⟨hvisited, -⟩ := ht.report_eq fun hmem => nomatch List.mem_singleton.mp hmem
  have hnone := passedOver_running (s := s) (blank_running (a := a) hq) calls
  have hcanceled := hmore.canceled
  have hshown := hmore.shown
  rw [hnone] at hcanceled hshown
  rw [hout]
  refine ⟨by simpa [blank] using hcanceled, ?_⟩
  exact hvisited.trans ((Nat.zero_add _).trans hshown)

/-- **The report on the walk of an outline and its entries account for each other**, whatever is
hidden and whenever the outline is stopped.

What is passed over is reached after the outline was stopped, and there is such a thing if and only
if it was. A node is reached that has an entry, or that is passed over. The visitor declines to
descend where the entry hides something, and at what is passed over. The unknown kinds that are
reported are those of the entries, in their order, each with the node that the entry is about. The
placeholders that are made are those that have an entry, and others if the outline was stopped; for
this, no node of the arena may look like one (`Built.unfilled`), and no other one may get in the
place of what is below the root. -/
theorem outline_accounts (hc : (a.outline s r steps root progress).complete) :
    let o := (a.outline s r steps root progress).outline
    let entries := o.entries.toList
    let calls :=
      (a.walk (logging (visitor s r)) s.nulls steps root (blank r a progress, [])).memory.2
    let passed := passedOver s r (blank r a progress) calls
    (passed.length = 0 ↔ o.canceled = false) ∧
    o.walk.visited = entries.length + passed.length ∧
    o.walk.skipped = entries.countP (fun e => 0 < e.hidden) + passed.length ∧
    o.walk.unknownKinds.toList = ((entries.zip (visits calls)).filter
      fun x => x.1.kind.walkOrder = none).map (fun x => ⟨x.1.kind.name, x.2⟩) ∧
    (a.Unfilled → (s.nulls = true → ∀ id, ReflTransGen a.HasSlot root id → id < a.size) →
      entries.countP (·.synthetic) ≤ o.walk.synthesized ∧
      (o.canceled = false → o.walk.synthesized = entries.countP (·.synthetic))) := by
  intro o entries calls passed
  obtain ⟨calls', u, ht, hout, hmore⟩ := outline_accounted hc
  have hcalls : calls = calls' := congrArg Prod.snd (Walk.logged_of_traverses hc ht)
  subst hcalls
  obtain ⟨hvisited, hskipped, hunknown, -⟩ :=
    ht.report_eq fun hmem => nomatch List.mem_singleton.mp hmem
  set more := u.memory.entries.toList
  have hentries : entries = more := congrArg (·.entries.toList) hout
  have hwalk : o.walk = u.report := congrArg Outline.walk hout
  have hcanceled : o.canceled = true ↔ passed ≠ [] :=
    Bool.eq_iff_iff.mp (congrArg Outline.canceled hout) |>.trans
      (hmore.canceled.trans (or_iff_right Bool.false_ne_true))
  have hnone : passed.length = 0 ↔ o.canceled = false := by
    rw [List.length_eq_zero_iff, ← Bool.not_eq_true, hcanceled, not_not]
  have hshown : (visits calls).length = more.length + passed.length := hmore.shown
  have hinto : (descents (visitor s r) (blank r a progress) calls).length +
      more.countP (fun e => 0 < e.hidden) = more.length := hmore.into
  have hsynthetic : (shown calls).countP (fun p => (p.1.node p.2).synthetic) =
      more.countP (·.synthetic) + passed.countP (fun p => (p.1.node p.2).synthetic) :=
    hmore.synthetic
  rw [hwalk, hentries]
  refine ⟨hnone, ?_, ?_, ?_, fun ha hin => ?_⟩
  · rw [hvisited, hshown]
    exact Nat.zero_add _
  · have hskipped : u.report.skipped + (descents (visitor s r) (blank r a progress) calls).length =
        0 + (visits calls).length := hskipped
    omega
  · rw [hunknown]
    refine (List.nil_append _).trans (hmore.unknown.trans ?_)
    rw [← List.filterMap_eq_map, List.filterMap_filter]
    refine List.filterMap_congr fun x _ => ?_
    simp [unknown?, Walk.walkOrder_eq_none_iff]
  · rw [ht.synthesized_eq ha hin, hsynthetic]
    refine ⟨Nat.le_add_right _ _, fun hnot => ?_⟩
    rw [List.length_eq_zero_iff.mp (hnone.mpr hnot), List.countP_nil, Nat.add_zero]

end Arena

/-- A list with two gaps, in which there are a strange node and something to be hidden. -/
def gappedList : Arena :=
  ⟨#[{ kind := .arrayExpression,
       children := [("elements", .list [some 1, none, some 2, none, some 3])] },
    { kind := .unknown "Strange" },
    { kind := .awaitExpression, children := [("argument", .node 3)] },
    { kind := .identifier }]⟩

open Outline Progress in
/-- A stop is asked for when three nodes have an entry. A gap and a node are passed over then. -/
theorem gappedList_accounts :
    let s : Settings := { collapse := [.awaitExpression], nulls := true }
    let stop : Recording Float := { cancelAfter := some 3 }
    let o := (gappedList.outline s Recording.receiver 20 0 stop).outline
    (gappedList.outline s Recording.receiver 20 0 stop).complete ∧ gappedList.Unfilled ∧
    (∀ id, ReflTransGen gappedList.HasSlot 0 id → id < gappedList.size) ∧
    o.canceled = true ∧
    o.entries.toList.map (fun e => (e.kind, e.hidden, e.synthetic)) =
      [(.arrayExpression, 0, false), (.unknown "Strange", 0, false), (.literal, 0, true),
        (.awaitExpression, 1, false)] ∧
    o.walk.visited = 4 + 2 ∧ o.walk.skipped = 1 + 2 ∧
    o.walk.unknownKinds.toList = [⟨"Strange", 1⟩] ∧ 1 ≤ o.walk.synthesized := by
  intro s stop o
  have hc : (gappedList.outline s Recording.receiver 20 0 stop).complete := by decide +kernel
  have hwalkable : gappedList.Walkable 0 :=
    Arena.walkable_of_rank id (Arena.forall_hasSlot (by decide)) (by decide)
  have hin (id : NodeId) (hid : ReflTransGen gappedList.HasSlot 0 id) : id < gappedList.size :=
    hwalkable.lt_size hid
  have hunfilled : gappedList.Unfilled := by
    intro id
    rcases Nat.lt_or_ge id gappedList.size with hlt | hle
    · have hall : ∀ id < gappedList.size, (gappedList.node id).synthetic = false := by decide
      exact hall id hlt
    · rw [Arena.node_of_le hle]
  obtain ⟨-, hvisited, hskipped, hunknown, hsynthesized⟩ :=
    Arena.outline_accounts hc
  obtain ⟨hsynthesized, -⟩ := hsynthesized hunfilled fun _ => hin
  refine ⟨hc, hunfilled, hin, by decide +kernel, by decide +kernel, ?_, ?_, ?_, ?_⟩
  · rw [hvisited]
    decide +kernel
  · rw [hskipped]
    decide +kernel
  · rw [hunknown]
    decide +kernel
  · refine Nat.le_trans ?_ hsynthesized
    decide +kernel

end Estree
