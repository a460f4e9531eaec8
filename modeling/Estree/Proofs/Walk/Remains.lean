import Estree.Proofs.Outline.Cancellation
import Estree.Proofs.Walk.OpenPath
import Estree.Search
import Estree.Stats

/-!
# What a walk leaves behind

A walk appends placeholders and drops them again, and it writes parents. When it is over, the
parents are all that is left of it. A node may have been reached several times, from different
nodes, and then it is the last time that counts: its parent is the innermost node that was open at
that time. As there is nothing below a placeholder, none of them has become a parent, and as their
kind is known, none of them is reported.

None of this depends on what the visitor does, so it holds of outlines, of searches and of figures
as well, and of an outline that has been stopped.

* `Residue`: what is left of a walk;
* `Traverses.parent_eq`: the parents after a traversal can be told from its calls;
* `Traverses.reported_lt`: what is reported is in the arena;
* `Arena.walk_residue`: all walks leave parents only.
-/

namespace Estree

open Relation

namespace Walk

/-! ### The parent that was recorded last -/

/-- The parent of `x` after some calls, if it is `p` and `path` are the open nodes before them. When
`x` is reached, the innermost open node becomes its parent. -/
def parentAfter (x : NodeId) : List NodeId → Option NodeId → List Call → Option NodeId
  | _, p, [] => p
  | path, p, .before _ id :: calls =>
    parentAfter x (id :: path) (if id = x then path.head? else p) calls
  | path, p, .after _ _ :: calls => parentAfter x path.tail p calls

section Calls

variable {x : NodeId} {path : List NodeId} {p : Option NodeId} {calls : List Call}

theorem parentAfter_append (calls later : List Call) :
    parentAfter x path p (calls ++ later) =
      parentAfter x (opened path calls) (parentAfter x path p calls) later := by
  induction calls generalizing path p with
  | nil => rfl
  | cons call calls ih =>
    cases call with
    | before b id => exact ih
    | after b id => exact ih

theorem parentAfter_of_not_mem (h : x ∉ visits calls) : parentAfter x path p calls = p := by
  induction calls generalizing path p with
  | nil => rfl
  | cons call calls ih =>
    cases call with
    | before b id =>
      rw [visits_before, List.mem_cons, not_or] at h
      rw [parentAfter, if_neg (Ne.symm h.1)]
      exact ih h.2
    | after b id => exact ih h

/-- **The last time counts.** -/
theorem parentAfter_of_mem (h : x ∈ visits calls) :
    ∃ earlier b later, calls = earlier ++ .before b x :: later ∧ x ∉ visits later ∧
      parentAfter x path p calls = (opened path earlier).head? := by
  induction calls generalizing path p with
  | nil => cases h
  | cons call calls ih =>
    by_cases hrest : x ∈ visits calls
    · cases call with
      | before b id =>
        obtain ⟨earlier, c, later, rfl, hlater, hp⟩ := ih hrest
        exact ⟨.before b id :: earlier, c, later, rfl, hlater, hp⟩
      | after b id =>
        obtain ⟨earlier, c, later, rfl, hlater, hp⟩ := ih hrest
        exact ⟨.after b id :: earlier, c, later, rfl, hlater, hp⟩
    · cases call with
      | before b id =>
        obtain rfl : x = id := (List.mem_cons.mp h).resolve_right hrest
        refine ⟨[], b, calls, rfl, hrest, ?_⟩
        rw [parentAfter, if_pos rfl]
        exact parentAfter_of_not_mem hrest
      | after b id => exact absurd h hrest

end Calls

/-! ### What a traversal does to an arena -/

section Traversal

variable {σ : Type} {v : Visitor σ} {nulls : Bool} {a : Arena} {root : NodeId}
  {parent : Option NodeId} {slots : List (Option NodeId)} {t u : Scene σ} {calls : List Call}

/-- **The parents after a traversal** are told by its calls. -/
theorem Traverses.parent_eq (ht : Traverses v nulls parent slots t calls u) {path : List NodeId}
    (hpath : path.head? = parent) {x : NodeId} (hx : x < t.arena.size) :
    u.arena.parent x = parentAfter x path (t.arena.parent x) calls := by
  induction ht generalizing path with
  | nil => rfl
  | hole hr _ ih => exact ih hpath hx
  | skip hr hb _ ih
  | unknown hr hb hs _ ih =>
    have hx₁ := Nat.lt_of_lt_of_le hx (size_of_reach hr)
    rw [ih hpath hx₁, parentAfter, hpath, ← parent_of_reach_eq hr hx]
    rfl
  | @descend _ _ _ _ t t₁ t₂ u inner calls id m hr hb hs hinner _ ih₁ ih₂ =>
    have hx₁ := Nat.lt_of_lt_of_le hx (size_of_reach hr)
    have hbelow : t₂.arena.parent x = parentAfter x (id :: path) (t₁.arena.parent x) inner :=
      ih₁ rfl hx₁
    have hrest : u.arena.parent x = parentAfter x path (t₂.arena.parent x) calls :=
      ih₂ hpath (Nat.lt_of_lt_of_le hx₁ hinner.size_le)
    rw [hrest, hbelow, parentAfter, hpath, ← parent_of_reach_eq hr hx, parentAfter_append,
      hinner.opened_eq]
    rfl

/-- **What is reported is in the arena**, for the kind of a placeholder is known. -/
theorem Traverses.reported_lt (ht : Traverses v nulls none [some root] (.start a m) calls u)
    (hin : ∀ id, ReflTransGen a.HasSlot root id → id < a.size) :
    ∀ unknown ∈ u.report.unknownKinds, unknown.node < a.size := by
  intro unknown hunknown
  obtain ⟨-, -, hreport, -⟩ := ht.report_eq fun hmem => nomatch List.mem_singleton.mp hmem
  rw [← Array.mem_toList_iff, hreport] at hunknown
  obtain ⟨⟨b, id⟩, hinto, hkind⟩ := List.mem_filterMap.mp hunknown
  have hshown := (descents_sublist_shown v m calls).subset hinto
  have hcall := before_mem_of_shown hshown
  have hgrown : a.Grown b := (ht.grown (.refl a)).2 _ hcall
  have hlt : id < b.size :=
    ht.node_lt hin (.refl a) (List.forall_mem_singleton.mpr rfl) _ hcall
  unfold unknownKind? at hkind
  split at hkind
  · next hnone =>
    obtain rfl := Option.some.inj hkind
    refine Nat.lt_of_not_le fun hle => ?_
    have hknown := congrArg Node.childSlots (hgrown.added id hle hlt)
    cases hnone.symm.trans hknown
  · cases hkind

end Traversal

/-- What is left of a walk over `a` when it is over: the arena is `b`, this is the report, and the
visitor was told `calls`. -/
structure Residue (a b : Arena) (report : WalkReport) (calls : List Call) : Prop where
  /-- There are as many nodes as before. -/
  size : b.size = a.size
  /-- The nodes are what they were, but for their parents. -/
  node : ∀ id, b.node id = { a.node id with parent := b.parent id }
  /-- What has not been reached has its old parent. -/
  stale : ∀ id, id ∉ visits calls → b.parent id = a.parent id
  /-- What has been reached has for its parent the innermost node that was open when it was reached
  the last time, through a slot of this node. The root is reached when nothing is open. -/
  fresh : ∀ id ∈ visits calls, id < a.size →
    ∃ earlier c later, calls = earlier ++ .before c id :: later ∧ id ∉ visits later ∧
      b.parent id = (opened [] earlier).head? ∧ ∀ owner, b.parent id = some owner →
        a.HasSlot owner id
  /-- No placeholder is reported. -/
  reported : ∀ unknown ∈ report.unknownKinds, unknown.node < a.size
  /-- No placeholder is a parent. -/
  inside : a.ParentsInside → b.ParentsInside

section Complete

variable {σ : Type} {v : Visitor σ} {nulls : Bool} {a : Arena} {root : NodeId} {m : σ}

/-- What is reached is reached through a slot of the innermost open node. -/
theorem Traverses.hasSlot_of_opened {u : Scene σ} {calls earlier later : List Call}
    (ht : Traverses v nulls none [some root] (.start a m) calls u) {c : Arena} {id owner : NodeId}
    (hcalls : calls = earlier ++ .before c id :: later) (hid : id < a.size)
    (howner : (opened [] earlier).head? = some owner) : a.HasSlot owner id := by
  obtain ⟨around, haround, hway⟩ := along_iff.mp ht.wayDown_of_root _ _ _ hcalls
  obtain rfl : opened [] earlier = around := haround
  exact (hway.offers howner).resolve_right fun h => Nat.not_lt_of_le h.1 hid

theorem residue_of_complete {steps : Nat}
    (hin : ∀ id, ReflTransGen a.HasSlot root id → id < a.size)
    (hc : (a.walk v nulls steps root m).complete) :
    Residue a (a.walk v nulls steps root m).arena (a.walk v nulls steps root m).report
      (a.walk (logging v) nulls steps root (m, [])).memory.2 := by
  obtain ⟨calls, u, ht, hwalk⟩ := traverses_of_complete hc
  obtain ⟨hgrown, -⟩ := ht.grown (.refl a)
  have hsize : (u.arena.truncate a.size).size = a.size := Arena.size_truncate hgrown.size
  have hparent {id : NodeId} (hid : id < a.size) :
      (u.arena.truncate a.size).parent id = parentAfter id [] (a.parent id) calls := by
    rw [Arena.parent, Arena.node_truncate hid]
    exact ht.parent_eq rfl hid
  have hstale (id : NodeId) (hnot : id ∉ visits calls) :
      (u.arena.truncate a.size).parent id = a.parent id := by
    rcases Nat.lt_or_ge id a.size with hlt | hle
    · rw [hparent hlt, parentAfter_of_not_mem hnot]
    · rw [Arena.parent_of_le hle, Arena.parent_of_le (hsize.symm ▸ hle)]
  have hfresh (id : NodeId) (hid : id ∈ visits calls) (hlt : id < a.size) :
      ∃ earlier c later, calls = earlier ++ .before c id :: later ∧ id ∉ visits later ∧
        (u.arena.truncate a.size).parent id = (opened [] earlier).head? ∧
        ∀ owner, (u.arena.truncate a.size).parent id = some owner → a.HasSlot owner id := by
    rw [hparent hlt]
    obtain ⟨earlier, c, later, hcalls, hlater, hhead⟩ := parentAfter_of_mem hid
    exact ⟨earlier, c, later, hcalls, hlater, hhead, fun owner howner =>
      ht.hasSlot_of_opened hcalls hlt (hhead.symm.trans howner)⟩
  rw [logged_of_traverses hc ht, hwalk]
  refine ⟨hsize, hgrown.truncate.node_eq, hstale, hfresh, ht.reported_lt hin, ?_⟩
  intro hinside id p hp
  have hlt : id < a.size := hsize ▸ Arena.lt_size_of_parentOf hp
  show p < (u.arena.truncate a.size).size
  rw [hsize]
  by_cases hid : id ∈ visits calls
  · obtain ⟨_, _, _, -, -, -, hslot⟩ := hfresh id hid hlt
    exact Arena.lt_size_of_hasSlot (hslot p hp)
  · exact hinside id p ((hstale id hid).symm.trans hp)

end Complete

end Walk

namespace Arena

open Walk (Residue logging)
open Progress (Quantity Receiver)

/-- **A walk leaves nothing behind but parents**, if all that can be reached is in the arena. It may
be any walk, and so it may be the one that makes an outline, whether this is stopped or not, the one
that makes a search, and the one that counts. -/
theorem walk_residue (a : Arena) (root : NodeId)
    (hin : ∀ id, ReflTransGen a.HasSlot root id → id < a.size) :
    (∀ {σ : Type} (v : Visitor σ) (nulls : Bool) (steps : Nat) (m : σ),
      let w := a.walk v nulls steps root m
      w.complete → Residue a w.arena w.report
        (a.walk (logging v) nulls steps root (m, [])).memory.2) ∧
    (∀ {α σ : Type} [Quantity α] (s : Outline.Settings) (r : Receiver α σ) (steps : Nat)
        (progress : σ),
      let o := a.outline s r steps root progress
      o.complete → Residue a o.arena o.outline.walk
        (a.walk (logging (Outline.visitor s r)) s.nulls steps root
          (Outline.blank r a progress, [])).memory.2) ∧
    (∀ (test : String → Bool) (steps : Nat),
      let w := a.search test steps root
      w.complete → Residue a w.arena w.report
        (a.walk (logging (Search.visitor test)) false steps root (#[], [])).memory.2) ∧
    ∀ (t : Tally) (nulls : Bool) (steps : Nat),
      let w := t.record a nulls steps root
      w.complete → Residue a w.arena w.report
        (a.walk (logging Tally.visitor) nulls steps root (t, [])).memory.2 := by
  refine ⟨fun v nulls steps m hc => ?_, fun s r steps progress hc => ?_, fun test steps hc => ?_,
    fun t nulls steps hc => ?_⟩
  · exact Walk.residue_of_complete hin hc
  · exact Walk.residue_of_complete (v := Outline.visitor s r) hin hc
  · exact Walk.residue_of_complete (v := Search.visitor test) hin hc
  · exact Walk.residue_of_complete (v := Tally.visitor) hin hc

theorem lt_size_of_reaches {a : Arena} {root : NodeId}
    (hin : ∀ p id, a.HasSlot p id → id < a.size) (hroot : root < a.size) (id : NodeId)
    (h : ReflTransGen a.HasSlot root id) : id < a.size := by
  cases h with
  | refl => exact hroot
  | tail _ hlast => exact hin _ _ hlast

/-- Two walks over a ring, which end because the visitor declines to go on and because the outline
is stopped, and two walks after the ring has been taken apart. -/
theorem crossed_residue :
    (∀ id, ReflTransGen crossed.HasSlot 0 id → id < crossed.size) ∧
    (∀ id, ReflTransGen uncrossed.HasSlot 0 id → id < uncrossed.size) ∧
    (let w := crossed.walk Walk.descending true 20 0 3
     w.complete ∧ w.arena.parent 0 = some 1 ∧ Residue crossed w.arena w.report
      (crossed.walk (logging Walk.descending) true 20 0 (3, [])).memory.2) ∧
    (let o := crossed.outline {} Progress.Recording.receiver 20 0 impatient
     o.complete ∧ o.outline.canceled ∧ ∃ calls, Residue crossed o.arena o.outline.walk calls) ∧
    (let w := uncrossed.search (fun _ => true) 20 0
     w.complete ∧ w.arena.parent 0 = none ∧ ∃ calls, Residue uncrossed w.arena w.report calls) ∧
    (let w := Tally.record {} uncrossed true 20 0
     w.complete ∧ ∃ calls, Residue uncrossed w.arena w.report calls) := by
  have hcrossed : ∀ id, ReflTransGen crossed.HasSlot 0 id → id < crossed.size :=
    lt_size_of_reaches (forall_hasSlot (by decide)) (by decide)
  have huncrossed : ∀ id, ReflTransGen uncrossed.HasSlot 0 id → id < uncrossed.size :=
    lt_size_of_reaches (forall_hasSlot (by decide)) (by decide)
  obtain ⟨hwalk, houtline, -, -⟩ := walk_residue crossed 0 hcrossed
  obtain ⟨-, -, hsearch, htally⟩ := walk_residue uncrossed 0 huncrossed
  exact ⟨hcrossed, huncrossed, ⟨by decide, by decide, hwalk _ _ _ _ (by decide)⟩,
    ⟨rfl, rfl, _, houtline _ _ _ _ rfl⟩, ⟨by decide, by decide, _, hsearch _ _ (by decide)⟩,
    ⟨by decide, _, htally _ _ _ (by decide)⟩⟩

end Arena

end Estree
