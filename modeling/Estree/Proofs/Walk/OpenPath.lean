import Estree.Proofs.Walk.Ending

/-!
# The way up from an open node

A visitor sees no stack. It knows where it is from the parents that the walk has recorded, and most
of the parents in an arena were recorded by nobody knows which walk. Still a climb from the node
that it is told of leads through the nodes that are open at this moment, and no others: each of
these was reached from the one around it, and since then the walk has only come by what is below,
which is something else unless the tree contains itself.

* `Arena.Climbs.ancestors_eq`: where a climb ends, it is what `Arena.ancestors` lists;
* `Traverses.parent_stale`: a traversal leaves the parents of what it cannot reach as they are;
* `Traverses.faithful`: the climb from the node of each call leads through the open nodes;
* `Traverses.wayDown`: the open nodes are the way by which the walk has come;
* `Arena.AcyclicFrom.ancestors_eq_opened`: so the recorded parents tell the way, on any walk over
  something that does not contain itself.
-/

namespace Estree

open Relation

namespace Arena

variable {a b : Arena} {id : NodeId} {path : List NodeId}

/-! ### Climbs -/

/-- There is one way up. -/
theorem Climbs.unique (h : a.Climbs id path) {path' : List NodeId} (h' : a.Climbs id path') :
    path = path' := by
  induction h generalizing path' with
  | stop hp =>
    cases h' with
    | stop _ => rfl
    | up hp' _ =>
      rw [hp] at hp'
      cases hp'
  | up hp _ ih =>
    cases h' with
    | stop hp' =>
      rw [hp] at hp'
      cases hp'
    | up hp' h' =>
      rw [hp] at hp'
      cases hp'
      rw [ih h']

/-- From each node that is met the climb goes on as a climb from there. -/
theorem Climbs.from_mem (h : a.Climbs id path) {p : NodeId} (hp : p ∈ path) :
    ∃ above, a.Climbs p above ∧ above.length < path.length := by
  induction h with
  | stop _ => cases hp
  | @up id q above _ hclimb ih =>
    rcases List.mem_cons.mp hp with rfl | hmem
    · exact ⟨above, hclimb, Nat.lt_succ_self _⟩
    · obtain ⟨above', hclimb', hlt⟩ := ih hmem
      exact ⟨above', hclimb', Nat.lt_succ_of_lt hlt⟩

theorem Climbs.parent_eq (h : a.Climbs id path) : a.parent id = path.head? := by
  cases h with
  | stop hp => exact hp
  | up hp _ => exact hp

/-- A climb that ends meets nothing twice. -/
theorem Climbs.nodup (h : a.Climbs id path) : (id :: path).Nodup := by
  have hnot {id : NodeId} {path : List NodeId} (h : a.Climbs id path) : id ∉ path := by
    intro hmem
    obtain ⟨above, hclimb, hlt⟩ := h.from_mem hmem
    rw [h.unique hclimb] at hlt
    exact Nat.lt_irrefl _ hlt
  induction h with
  | stop _ => exact List.nodup_singleton _
  | up hp hclimb ih => exact List.nodup_cons.mpr ⟨hnot (.up hp hclimb), ih⟩

/-- The climb with a limit is a part of it. -/
theorem Climbs.ancestorsUpTo_eq (h : a.Climbs id path) {limit : Nat} (hle : path.length ≤ limit) :
    a.ancestorsUpTo limit id = path := by
  induction h generalizing limit with
  | stop hp =>
    cases limit with
    | zero => rfl
    | succ limit => rw [ancestorsUpTo, hp]
  | up hp _ ih =>
    cases limit with
    | zero => cases hle
    | succ limit =>
      rw [ancestorsUpTo, hp]
      exact congrArg _ (ih (Nat.le_of_succ_le_succ hle))

/-- All but the last node have a parent, and so are nodes of the arena. -/
theorem Climbs.lt_size (h : a.Climbs id path) : ∀ x ∈ (id :: path).dropLast, x < a.size := by
  induction h with
  | stop _ => exact List.forall_mem_nil _
  | up hp _ ih =>
    rw [List.dropLast_cons_of_ne_nil (List.cons_ne_nil _ _)]
    exact List.forall_mem_cons.mpr ⟨lt_size_of_parentOf hp, ih⟩

/-- **Where a climb ends**, it is what the arena lists as ancestors: there are not more of them than
there are nodes. -/
theorem Climbs.ancestors_eq (h : a.Climbs id path) : a.ancestors id = path := by
  refine h.ancestorsUpTo_eq ?_
  have hsub : (id :: path).dropLast ⊆ List.range a.size :=
    fun x hx => List.mem_range.mpr (h.lt_size x hx)
  have hnodup : (id :: path).dropLast.Nodup := h.nodup.sublist (List.dropLast_sublist _)
  have hle := (List.subperm_of_subset hnodup hsub).length_le
  rw [List.length_dropLast, List.length_cons, List.length_range] at hle
  exact hle

/-- A climb is the same where the nodes on it have the same parents. -/
theorem Climbs.congr (h : a.Climbs id path) (hp : ∀ x ∈ id :: path, b.parent x = a.parent x) :
    b.Climbs id path := by
  induction h with
  | stop hnone =>
    obtain ⟨hid, -⟩ := List.forall_mem_cons.mp hp
    exact .stop (hid.trans hnone)
  | up hsome _ ih =>
    obtain ⟨hid, hrest⟩ := List.forall_mem_cons.mp hp
    exact .up (hid.trans hsome) (ih hrest)

end Arena

namespace Walk

variable {σ : Type} {v : Visitor σ} {nulls : Bool} {a : Arena} {root : NodeId}
  {parent : Option NodeId} {slots : List (Option NodeId)} {t t₁ u : Scene σ} {calls : List Call}

/-! ### Parents that stay -/

/-- What is reached is the only node that gets a parent. -/
theorem parent_of_reach_eq {slot : Option NodeId} {id : NodeId}
    (hr : t.reach nulls parent slot = some (id, t₁)) {x : NodeId} (hx : x < t.arena.size) :
    t₁.arena.parent x = if id = x then parent else t.arena.parent x := by
  rcases reach_cases hr with ⟨rfl, rfl⟩ | ⟨-, -, rfl, owner, -, rfl⟩
  · split
    · next heq =>
      subst heq
      exact Arena.parent_setParent_self hx parent
    · next hne => exact Arena.parent_setParent_of_ne hne parent
  · rw [if_neg (Nat.ne_of_gt hx)]
    exact Arena.parent_push_of_ne (Nat.ne_of_lt hx) _

theorem parent_of_reach {slot : Option NodeId} {id : NodeId}
    (hr : t.reach nulls parent slot = some (id, t₁)) {x : NodeId} (hx : x < t.arena.size)
    (hne : slot ≠ some x) : t₁.arena.parent x = t.arena.parent x := by
  rw [parent_of_reach_eq hr hx, if_neg]
  rintro rfl
  rcases reach_cases hr with ⟨hslot, -⟩ | ⟨-, -, rfl, -⟩
  · exact hne hslot
  · exact Nat.lt_irrefl _ hx

theorem size_of_reach {slot : Option NodeId} {id : NodeId}
    (hr : t.reach nulls parent slot = some (id, t₁)) : t.arena.size ≤ t₁.arena.size :=
  (grown_of_reach (Arena.Grown.refl _) hr).size

theorem Traverses.size_le (ht : Traverses v nulls parent slots t calls u) :
    t.arena.size ≤ u.arena.size :=
  (ht.grown (Arena.Grown.refl _)).1.size

/-- **A traversal leaves the parents of what it cannot reach as they are.** -/
theorem Traverses.parent_stale (ht : Traverses v nulls parent slots t calls u)
    (h : a.Grown t.arena) {x : NodeId} (hx : x < t.arena.size)
    (hnot : ∀ id, some id ∈ slots → ¬ ReflTransGen a.HasSlot id x) :
    u.arena.parent x = t.arena.parent x := by
  -- what is reached is in a slot, so it is not `x`
  have hslot {slot : Option NodeId} {rest : List (Option NodeId)}
      (hnot : ∀ id, some id ∈ slot :: rest → ¬ ReflTransGen a.HasSlot id x) : slot ≠ some x := by
    rintro rfl
    exact hnot x List.mem_cons_self .refl
  induction ht with
  | nil => rfl
  | @hole _ slot _ _ _ _ _ _ ih =>
    exact ih h hx fun id hid => hnot id (List.mem_cons_of_mem slot hid)
  | @skip _ slot _ _ _ _ _ _ _ hr hb _ ih
  | @unknown _ slot _ _ _ _ _ _ _ hr hb hs _ ih =>
    have h₁ := grown_of_reach h hr
    have hx₁ := Nat.lt_of_lt_of_le hx (size_of_reach hr)
    have hrest := ih h₁ hx₁
      fun id hid => hnot id (List.mem_cons_of_mem slot hid)
    exact hrest.trans (parent_of_reach hr hx (hslot hnot))
  | @descend _ slot rest slots t t₁ t₂ u _ _ id m hr hb hs hinner _ ih₁ ih₂ =>
    have h₁ := grown_of_reach h hr
    have hx₁ := Nat.lt_of_lt_of_le hx (size_of_reach hr)
    have hbelow : t₂.arena.parent x = t₁.arena.parent x := by
      refine ih₁ h₁ hx₁ fun id' hid' hreach => ?_
      have hlink : a.HasSlot id id' := hasSlot_of_reached h hr hs hid'
      rcases reach_cases hr with ⟨rfl, -⟩ | ⟨-, -, rfl, -⟩
      · exact hnot id List.mem_cons_self (.head hlink hreach)
      · exact absurd (Arena.lt_size_of_hasSlot hlink) (Nat.not_lt_of_le h.size)
    have hrest := ih₂ (hinner.grown h₁).1 (Nat.lt_of_lt_of_le hx₁ hinner.size_le)
      fun id hid => hnot id (List.mem_cons_of_mem slot hid)
    exact hrest.trans (hbelow.trans (parent_of_reach hr hx (hslot hnot)))

/-! ### Open nodes -/

/-- The climb from the node of the call leads through the open nodes. A node that is left is the
innermost of them. -/
def Call.Faithful (path : List NodeId) : Call → Prop
  | before b id => b.Climbs id path
  | after b id => ∃ above, path = id :: above ∧ b.Climbs id above

theorem Call.Around.climbs {path around : List NodeId} {call : Call}
    (h : call.Around path around) (hf : call.Faithful path) :
    call.arena.Climbs call.node around := by
  cases call with
  | before b id =>
    obtain rfl : path = around := h
    exact hf
  | after b id =>
    obtain rfl : path = id :: around := h
    obtain ⟨above, heq, hclimb⟩ := hf
    obtain rfl : around = above := (List.cons.inj heq).2
    exact hclimb

/-- The slots of `parent` are about to be entered, and `path` are the open nodes: the climb from the
innermost one leads through the others, and what is in its slots is below all of them. The root of a
walk is entered when nothing is open. -/
def OpenAt (a b : Arena) : Option NodeId → List NodeId → Prop
  | none, path => path = []
  | some owner, path => (∃ above, path = owner :: above ∧ b.Climbs owner above) ∧
      ∀ x ∈ path, x < b.size ∧ ∀ id, a.HasSlot owner id → TransGen a.HasSlot x id

/-- What can be entered may be any slot of `parent`. -/
abbrev Within (a : Arena) (root : NodeId) : Option NodeId → Option NodeId → Prop :=
  Enters a root fun _ => True

namespace OpenAt

variable {b : Arena} {path : List NodeId}

theorem congr {c : Arena} (h : OpenAt a b parent path) (hsize : b.size ≤ c.size)
    (hp : ∀ x ∈ path, c.parent x = b.parent x) : OpenAt a c parent path := by
  cases parent with
  | none => exact h
  | some owner =>
    obtain ⟨⟨above, rfl, hclimb⟩, hbelow⟩ := h
    refine ⟨⟨above, rfl, hclimb.congr hp⟩, fun x hx => ?_⟩
    exact ⟨Nat.lt_of_lt_of_le (hbelow x hx).1 hsize, (hbelow x hx).2⟩

theorem lt_size (h : OpenAt a b parent path) {x : NodeId} (hx : x ∈ path) : x < b.size := by
  cases parent with
  | none =>
    rw [show path = [] from h] at hx
    cases hx
  | some owner => exact (h.2 x hx).1

/-- What is in a slot of the innermost open node is below all open nodes. -/
theorem below (h : OpenAt a b parent path) {id : NodeId} (he : Within a root parent (some id))
    {x : NodeId} (hx : x ∈ path) : TransGen a.HasSlot x id := by
  cases parent with
  | none =>
    rw [show path = [] from h] at hx
    cases hx
  | some owner =>
    obtain ⟨-, -, hslot⟩ := he
    exact (h.2 x hx).2 id (hslot id rfl)

/-- So nothing that is open can be reached from there. -/
theorem not_reaches (h : OpenAt a b parent path) (ha : a.AcyclicFrom root) {id : NodeId}
    (he : Within a root parent (some id)) {x : NodeId} (hx : x ∈ path) :
    ¬ ReflTransGen a.HasSlot id x :=
  fun hback => ha id he.reaches (.trans_right hback (h.below he hx))

section Reach

variable {slot : Option NodeId} {id : NodeId}

/-- When something is reached, the open nodes keep their parents. -/
theorem reach (ho : OpenAt a t.arena parent path) (ha : a.AcyclicFrom root)
    (he : Within a root parent slot) (hr : t.reach nulls parent slot = some (id, t₁)) :
    OpenAt a t₁.arena parent path := by
  refine ho.congr (size_of_reach hr) fun x hx => parent_of_reach hr (ho.lt_size hx) ?_
  rintro rfl
  exact ho.not_reaches ha he hx .refl

/-- The climb from what has been reached leads through the open nodes. -/
theorem climbs (ho : OpenAt a t.arena parent path) (ha : a.AcyclicFrom root)
    (he : Within a root parent slot) (hr : t.reach nulls parent slot = some (id, t₁))
    (hlt : id < t₁.arena.size) : t₁.arena.Climbs id path := by
  have ho₁ := ho.reach ha he hr
  have hid : t₁.arena.parent id = parent := by
    rcases reach_cases hr with ⟨rfl, rfl⟩ | ⟨rfl, -, rfl, owner, rfl, rfl⟩
    · rw [Arena.setParent, Arena.size_modify] at hlt
      exact Arena.parent_setParent_self hlt parent
    · rw [Arena.parent, Arena.node_push_size]
      rfl
  cases parent with
  | none =>
    rw [show path = [] from ho]
    exact .stop hid
  | some owner =>
    obtain ⟨⟨above, rfl, hclimb⟩, -⟩ := ho₁
    exact .up hid hclimb

/-- What has been reached is open from then on. -/
theorem enter (ho : OpenAt a t.arena parent path) (ha : a.AcyclicFrom root) (h : a.Grown t.arena)
    (he : Within a root parent slot) (hr : t.reach nulls parent slot = some (id, t₁))
    (hlt : id < t₁.arena.size) : OpenAt a t₁.arena (some id) (id :: path) := by
  refine ⟨⟨path, rfl, ho.climbs ha he hr hlt⟩, List.forall_mem_cons.mpr ⟨⟨hlt, ?_⟩, ?_⟩⟩
  · exact fun id' hslot => .single hslot
  · refine fun x hx => ⟨(ho.reach ha he hr).lt_size hx, fun id' hslot => ?_⟩
    rcases reach_cases hr with ⟨rfl, -⟩ | ⟨-, -, rfl, -⟩
    · exact (ho.below he hx).tail hslot
    · exact absurd (Arena.lt_size_of_hasSlot hslot) (Nat.not_lt_of_le h.size)

/-- The slots of what has been reached can be entered. -/
theorem within (h : a.Grown t.arena) (he : Within a root parent slot)
    (hr : t.reach nulls parent slot = some (id, t₁)) {slots : List (Option NodeId)}
    (hs : t₁.arena.childSlots id = some slots) : ∀ s ∈ slots, Within a root (some id) s := by
  intro s hmem
  rcases reach_cases hr with ⟨rfl, -⟩ | ⟨-, -, rfl, -⟩
  · refine ⟨trivial, he.reaches, ?_⟩
    rintro x rfl
    exact hasSlot_of_reached h hr hs hmem
  · -- there is nothing below a placeholder
    have hslotsOf := slotsOf_reached h hr
    rw [hs, Arena.slotsOf_of_le h.size, Option.getD_some] at hslotsOf
    subst hslotsOf
    cases hmem

end Reach

end OpenAt

/-- **The climb from the node of each call leads through the open nodes**, in the tree that the
visitor is shown, if nothing that can be reached contains itself. An index that nothing is stored
under has no parent. -/
theorem Traverses.faithful (ht : Traverses v nulls parent slots t calls u)
    (ha : a.AcyclicFrom root) (h : a.Grown t.arena) (he : ∀ s ∈ slots, Within a root parent s)
    {path : List NodeId} (ho : OpenAt a t.arena parent path) :
    Along (fun path call => call.node < call.arena.size → call.Faithful path) path calls := by
  induction ht generalizing path with
  | nil => exact along_nil
  | hole hr _ ih => exact ih h (List.forall_mem_cons.mp he).2 ho
  | skip hr hb _ ih
  | unknown hr hb hs _ ih =>
    obtain ⟨hslot, hrest⟩ := List.forall_mem_cons.mp he
    have h₁ := grown_of_reach h hr
    have ho₁ := ho.reach ha hslot hr
    have hclimb := ho.climbs ha hslot hr
    exact ⟨hclimb, fun hlt => ⟨path, rfl, hclimb hlt⟩, ih h₁ hrest ho₁⟩
  | @descend parent slot rest slots t t₁ t₂ u inner calls id m hr hb hs hinner _ ih₁ ih₂ =>
    obtain ⟨hslot, hrest⟩ := List.forall_mem_cons.mp he
    have h₁ := grown_of_reach h hr
    have hlt : id < t₁.arena.size := Arena.lt_size_of_childSlots hs
    have henter := ho.enter ha h hslot hr hlt
    have hwithin := OpenAt.within h hslot hr hs
    -- what is below the node leaves the parents of the open nodes alone
    have hstale : ∀ x ∈ id :: path, t₂.arena.parent x = t₁.arena.parent x := fun x hx =>
      hinner.parent_stale h₁ (henter.lt_size hx) fun _ hid =>
        henter.not_reaches ha (hwithin _ hid) hx
    have hclimb := ho.climbs ha hslot hr hlt
    have ho₂ : OpenAt a t₂.arena parent path :=
      (ho.reach ha hslot hr).congr hinner.size_le (List.forall_mem_cons.mp hstale).2
    refine ⟨fun _ => hclimb, along_append.mpr ⟨ih₁ h₁ hwithin henter, ?_⟩⟩
    rw [turn_before, hinner.opened_eq]
    exact ⟨fun _ => ⟨path, rfl, hclimb.congr hstale⟩, ih₂ (hinner.grown h₁).1 hrest ho₂⟩

/-- Where all that can be reached is in the arena, each call is about a node of the tree or about a
placeholder that is there. -/
theorem Traverses.node_lt (ht : Traverses v nulls parent slots t calls u)
    (hin : ∀ id, ReflTransGen a.HasSlot root id → id < a.size) (h : a.Grown t.arena)
    (he : ∀ s ∈ slots, Within a root parent s) :
    ∀ call ∈ calls, call.node < call.arena.size := by
  have hreached {parent slot : Option NodeId} {t t₁ : Scene σ} {id : NodeId}
      (h : a.Grown t.arena) (he : Within a root parent slot)
      (hr : t.reach nulls parent slot = some (id, t₁)) : id < t₁.arena.size := by
    refine lt_of_reach h (fun id hid => ?_) hr
    subst hid
    exact hin id he.reaches
  induction ht with
  | nil => exact List.forall_mem_nil _
  | hole hr _ ih => exact ih h (List.forall_mem_cons.mp he).2
  | skip hr hb _ ih
  | unknown hr hb hs _ ih =>
    obtain ⟨hslot, hrest⟩ := List.forall_mem_cons.mp he
    have h₁ := grown_of_reach h hr
    have hlt := hreached h hslot hr
    exact List.forall_mem_cons.mpr ⟨hlt, List.forall_mem_cons.mpr ⟨hlt, ih h₁ hrest⟩⟩
  | descend hr hb hs hinner _ ih₁ ih₂ =>
    obtain ⟨hslot, hrest⟩ := List.forall_mem_cons.mp he
    have h₁ := grown_of_reach h hr
    have hlt := hreached h hslot hr
    refine List.forall_mem_cons.mpr
      ⟨hlt, List.forall_mem_append.mpr ⟨ih₁ h₁ (OpenAt.within h hslot hr hs), ?_⟩⟩
    exact List.forall_mem_cons.mpr
      ⟨Nat.lt_of_lt_of_le hlt hinner.size_le, ih₂ (hinner.grown h₁).1 hrest⟩

/-! ### Ways down -/

/-- What `id` is reached through: a slot of `owner` that holds it, or, for a placeholder, one that
is empty. -/
def Offers (a : Arena) (id owner : NodeId) : Prop :=
  a.HasSlot owner id ∨ a.size ≤ id ∧ none ∈ a.slotsOf owner

/-- From the root the walk has come down to `id` by way of `path`, which lists the nodes from the
last one to the first, and through a slot of each. -/
def WayDown (a : Arena) (root : NodeId) (path : List NodeId) (id : NodeId) : Prop :=
  (id :: path).IsChain (Offers a) ∧ (id :: path).getLast? = some root

theorem WayDown.slot {path : List NodeId} {owner id : NodeId} (h : WayDown a root path owner)
    (ho : Offers a id owner) : WayDown a root (owner :: path) id :=
  ⟨List.isChain_cons_cons.mpr ⟨ho, h.1⟩, h.2⟩

theorem WayDown.offers {path : List NodeId} {owner id : NodeId} (h : WayDown a root path id)
    (hp : path.head? = some owner) : Offers a id owner := by
  obtain ⟨above, rfl⟩ := List.head?_eq_some_iff.mp hp
  exact (List.isChain_cons_cons.mp h.1).1

/-- **What is reached is reached by way of the open nodes.** -/
theorem Traverses.wayDown (ht : Traverses v nulls parent slots t calls u) (h : a.Grown t.arena)
    {path : List NodeId} (hdown : ∀ s ∈ slots, ∀ id,
      (s = some id ∨ s = none ∧ a.size ≤ id) → WayDown a root path id) :
    Along (fun path call => ∃ around, call.Around path around ∧ WayDown a root around call.node)
      path calls := by
  have hreached {parent slot : Option NodeId} {t t₁ : Scene σ} {id : NodeId}
      (h : a.Grown t.arena) (hr : t.reach nulls parent slot = some (id, t₁)) :
      slot = some id ∨ slot = none ∧ a.size ≤ id := by
    rcases reach_cases hr with ⟨rfl, -⟩ | ⟨rfl, -, rfl, -⟩
    · exact .inl rfl
    · exact .inr ⟨rfl, h.size⟩
  induction ht generalizing path with
  | nil => exact along_nil
  | hole hr _ ih => exact ih h (List.forall_mem_cons.mp hdown).2
  | @skip _ _ _ _ _ _ _ id _ hr hb _ ih
  | @unknown _ _ _ _ _ _ _ id _ hr hb hs _ ih =>
    obtain ⟨hslot, hrest⟩ := List.forall_mem_cons.mp hdown
    have h₁ := grown_of_reach h hr
    have hid := hslot id (hreached h hr)
    exact ⟨⟨path, rfl, hid⟩, ⟨path, rfl, hid⟩, ih h₁ hrest⟩
  | @descend _ _ _ slots _ t₁ _ _ _ _ id _ hr hb hs hinner _ ih₁ ih₂ =>
    obtain ⟨hslot, hrest⟩ := List.forall_mem_cons.mp hdown
    have h₁ := grown_of_reach h hr
    have hid := hslot id (hreached h hr)
    have hslots : a.slotsOf id = slots := by rw [slotsOf_reached h hr, hs, Option.getD_some]
    have hbelow : ∀ s ∈ slots, ∀ x, (s = some x ∨ s = none ∧ a.size ≤ x) →
        WayDown a root (id :: path) x := by
      rw [← hslots]
      rintro s hmem x (rfl | ⟨rfl, hle⟩)
      · exact hid.slot (.inl hmem)
      · exact hid.slot (.inr ⟨hle, hmem⟩)
    refine ⟨⟨path, rfl, hid⟩, along_append.mpr ⟨ih₁ h₁ hbelow, ?_⟩⟩
    rw [turn_before, hinner.opened_eq]
    exact ⟨⟨path, rfl, hid⟩, ih₂ (hinner.grown h₁).1 hrest⟩

/-- On a walk this is so from the beginning. -/
theorem Traverses.wayDown_of_root {m : σ}
    (ht : Traverses v nulls none [some root] (.start a m) calls u) :
    Along (fun path call => ∃ around, call.Around path around ∧ WayDown a root around call.node)
      [] calls := by
  refine ht.wayDown (.refl a) fun s hs id hid => ?_
  obtain rfl := List.mem_singleton.mp hs
  rcases hid with hid | ⟨hid, -⟩
  · obtain rfl := Option.some.inj hid
    exact ⟨.singleton root, rfl⟩
  · cases hid

end Walk

namespace Arena

open Walk (Along Call logging opened)

/-- On a walk over something that does not contain itself the climb from the node of each call leads
through the nodes that are open then. -/
theorem Walkable.faithful {σ : Type} {v : Visitor σ} {nulls : Bool} {a : Arena} {root : NodeId}
    {m : σ} {steps : Nat} (hw : a.Walkable root) (hc : (a.walk v nulls steps root m).complete) :
    Along Call.Faithful [] (a.walk (logging v) nulls steps root (m, [])).memory.2 := by
  obtain ⟨calls, u, ht, -⟩ := Walk.traverses_of_complete hc
  rw [Walk.logged_of_traverses hc ht]
  have hroot : ∀ s ∈ [some root], Walk.Within a root none s := List.forall_mem_singleton.mpr rfl
  have hlt := ht.node_lt (fun _ => hw.lt_size) (.refl a) hroot
  exact (ht.faithful hw.acyclic (.refl a) hroot rfl).imp
    fun path call hmem hcall => hcall (hlt call hmem)

/-- **Parents are right whenever the visitor is called**, whatever parents there were before, if
nothing that can be reached contains itself. The ancestors of the node that a call is about are the
other nodes that are open then, from the innermost one to the root; each of these is the node
through whose slot the next one was reached. This includes placeholders. It says nothing of an index
that nothing is stored under, and where all that can be reached is in the arena there is no such
call. -/
theorem AcyclicFrom.ancestors_eq_opened {σ : Type} {a : Arena} {root : NodeId}
    (h : a.AcyclicFrom root) (v : Visitor σ) (nulls : Bool) (steps : Nat) (m : σ) :
    let calls := (a.walk (logging v) nulls steps root (m, [])).memory.2
    (∀ earlier call later, calls = earlier ++ call :: later →
      ∃ around, call.Around (opened [] earlier) around ∧
        Walk.WayDown a root around call.node ∧
        (call.node < call.arena.size →
          call.arena.ancestors call.node = around ∧
          call.arena.parent call.node = around.head? ∧
          call.arena.Climbs call.node around ∧
          (call.node :: around).Nodup)) ∧
    ((∀ id, ReflTransGen a.HasSlot root id → id < a.size) →
      ∀ call ∈ calls, call.node < call.arena.size) := by
  intro calls
  obtain ⟨all, u, ht⟩ := Walk.exists_traversal h v nulls m
  obtain ⟨rest, hrest⟩ : calls <+: all := ht.calls_prefix steps
  have hroot : ∀ s ∈ [some root], Walk.Within a root none s := List.forall_mem_singleton.mpr rfl
  constructor
  · intro earlier call later hcalls
    rw [hcalls, List.append_assoc, List.cons_append] at hrest
    obtain ⟨around, haround, hway⟩ := Walk.along_iff.mp ht.wayDown_of_root _ _ _ hrest.symm
    have hfaithful := ht.faithful h (.refl a) hroot (show Walk.OpenAt a a none [] from rfl)
    have hcall := Walk.along_iff.mp hfaithful _ _ _ hrest.symm
    refine ⟨around, haround, hway, fun hlt => ?_⟩
    have hclimb : call.arena.Climbs call.node around := haround.climbs (hcall hlt)
    exact ⟨hclimb.ancestors_eq, hclimb.parent_eq, hclimb, hclimb.nodup⟩
  · intro hin call hcall
    exact ht.node_lt hin (.refl a) hroot call (hrest ▸ List.mem_append_left rest hcall)

/-- Two nodes, each below the other, and the second one twice. -/
def crossed : Arena :=
  ⟨#[{ kind := .conditionalExpression, children := [("consequent", .node 1), ("test", .node 1)] },
    { kind := .awaitExpression, children := [("argument", .node 0)] }]⟩

/-- After a walk the first node is no longer below the second, but each is the parent of the other
still. -/
def uncrossed : Arena :=
  (crossed.walk Walk.descending false 12 0 3).arena.setChild 1 "argument" (.list [])

/-- The next walk reaches the second node twice, and then a placeholder. -/
theorem uncrossed_ancestors :
    (uncrossed.parent 0 = some 1 ∧ uncrossed.parent 1 = some 0) ∧ uncrossed.AcyclicFrom 0 ∧
    let calls := (uncrossed.walk (logging Walk.wanderer) true 9 0 ((), [])).memory.2
    Walk.visits calls = [0, 1, 1, 2] ∧
    ∀ earlier call later, calls = earlier ++ call :: later →
      call.node < call.arena.size ∧
      call.Around (opened [] earlier) (call.arena.ancestors call.node) := by
  have hw : uncrossed.Walkable 0 := walkable_of_rank id (forall_hasSlot (by decide)) (by decide)
  obtain ⟨hcalls, hlt⟩ :=
    AcyclicFrom.ancestors_eq_opened hw.acyclic Walk.wanderer true 9 ()
  refine ⟨by decide, hw.acyclic, by decide, fun earlier call later heq => ?_⟩
  have hcall := hlt (fun _ => hw.lt_size) call (heq ▸ List.mem_append_right _ List.mem_cons_self)
  obtain ⟨around, haround, -, hparents⟩ := hcalls earlier call later heq
  obtain ⟨rfl, -⟩ := hparents hcall
  exact ⟨hcall, haround⟩

end Arena

end Estree
