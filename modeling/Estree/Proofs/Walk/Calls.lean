import Estree.Proofs.Walk.Lockstep
import Estree.Proofs.Walk.Reached

/-!
# What the calls of a walk tell

A visitor knows a walk from its calls only, and there is not more to know. What it remembers is
made of them one by one (`Traverses.memory_eq`). The report says how many nodes are reached, into
how many of those the visitor descends and how many empty slots and unknown kinds it meets there
(`Traverses.report_eq`).

The calls also tell which nodes are open: those that have been reached and not been left. `Along`
says of a property that it holds of each call with the nodes that are open then.

* `Traverses.opened_eq`: a traversal closes what it opens;
* `along_iff`: what holds along the calls holds after any number of them;
* `walk_same_calls`: visitors that answer alike get the same calls.
-/

namespace Estree

namespace Walk

variable {σ τ : Type}

/-! ### What the visitor remembers -/

/-- What the visitor remembers after a call. -/
def Call.tell (v : Visitor σ) (m : σ) : Call → σ
  | before a id => (v.before a id m).2
  | after a id => v.after a id m

/-- What the visitor remembers after some calls. -/
def told (v : Visitor σ) (m : σ) (calls : List Call) : σ := calls.foldl (Call.tell v) m

/-- The nodes that a visitor who remembers `m` descends into when it gets these calls, each with the
tree at that moment. -/
def descents (v : Visitor σ) : σ → List Call → List (Arena × NodeId)
  | _, [] => []
  | m, .before a id :: calls =>
    match v.before a id m with
    | (.skip, m) => descents v m calls
    | (.descend, m) => (a, id) :: descents v m calls
  | m, .after a id :: calls => descents v (v.after a id m) calls

variable {v : Visitor σ} {m : σ}

@[simp] theorem told_nil : told v m [] = m := rfl

@[simp] theorem told_cons (call : Call) (calls : List Call) :
    told v m (call :: calls) = told v (call.tell v m) calls := rfl

@[simp] theorem told_append (calls later : List Call) :
    told v m (calls ++ later) = told v (told v m calls) later :=
  List.foldl_append

@[simp] theorem tell_before (a : Arena) (id : NodeId) :
    Call.tell v m (.before a id) = (v.before a id m).2 := rfl

@[simp] theorem tell_after (a : Arena) (id : NodeId) :
    Call.tell v m (.after a id) = v.after a id m := rfl

@[simp] theorem descents_nil : descents v m [] = [] := rfl

@[simp] theorem descents_after (a : Arena) (id : NodeId) (calls : List Call) :
    descents v m (.after a id :: calls) = descents v (v.after a id m) calls := rfl

theorem descents_skip {a : Arena} {id : NodeId} {m' : σ} (h : v.before a id m = (.skip, m'))
    (calls : List Call) : descents v m (.before a id :: calls) = descents v m' calls := by
  rw [descents, h]

theorem descents_descend {a : Arena} {id : NodeId} {m' : σ} (h : v.before a id m = (.descend, m'))
    (calls : List Call) :
    descents v m (.before a id :: calls) = (a, id) :: descents v m' calls := by
  rw [descents, h]

theorem descents_append (calls later : List Call) :
    descents v m (calls ++ later) = descents v m calls ++ descents v (told v m calls) later := by
  induction calls generalizing m with
  | nil => rfl
  | cons call calls ih =>
    rw [List.cons_append]
    cases call with
    | after a id =>
      rw [descents_after, descents_after, ih]
      rfl
    | before a id =>
      cases hb : v.before a id m with
      | mk answer m' =>
      have hm : told v m (.before a id :: calls) = told v m' calls := by
        rw [told_cons, tell_before, hb]
      rw [hm]
      cases answer with
      | skip => rw [descents_skip hb, descents_skip hb, ih]
      | descend => rw [descents_descend hb, descents_descend hb, ih, List.cons_append]

/-- What each call keeps is kept by some calls. -/
theorem told_keeps {P : σ → Prop} (hbefore : ∀ a id m, P m → P (v.before a id m).2)
    (hafter : ∀ a id m, P m → P (v.after a id m)) (h : P m) (calls : List Call) :
    P (told v m calls) := by
  induction calls generalizing m with
  | nil => exact h
  | cons call calls ih =>
    cases call with
    | before a id => exact ih (hbefore a id m h)
    | after a id => exact ih (hafter a id m h)

/-- What a call shows to the visitor: a tree and a node in it that is reached. -/
def Call.shown? : Call → Option (Arena × NodeId)
  | before a id => some (a, id)
  | after _ _ => none

/-- What some calls show to the visitor. -/
def shown (calls : List Call) : List (Arena × NodeId) := calls.filterMap Call.shown?

@[simp] theorem shown_nil : shown [] = [] := rfl

@[simp] theorem shown_before (a : Arena) (id : NodeId) (calls : List Call) :
    shown (.before a id :: calls) = (a, id) :: shown calls := rfl

@[simp] theorem shown_after (a : Arena) (id : NodeId) (calls : List Call) :
    shown (.after a id :: calls) = shown calls := rfl

theorem map_shown (calls : List Call) : (shown calls).map Prod.snd = visits calls := by
  induction calls with
  | nil => rfl
  | cons call calls ih => cases call <;> simp [ih]

theorem length_shown (calls : List Call) : (shown calls).length = (visits calls).length := by
  rw [← map_shown, List.length_map]

/-- What is shown is shown in a call. -/
theorem before_mem_of_shown {calls : List Call} {p : Arena × NodeId} (hp : p ∈ shown calls) :
    .before p.1 p.2 ∈ calls := by
  obtain ⟨call, hcall, hshown⟩ := List.mem_filterMap.mp hp
  cases call <;> cases hshown
  exact hcall

/-- What is shown is reached, in a tree that has grown from `a`. -/
theorem grown_of_shown {a : Arena} {calls : List Call}
    (hcalls : ∀ call ∈ calls, a.Grown call.arena) {p : Arena × NodeId} (hp : p ∈ shown calls) :
    a.Grown p.1 ∧ p.2 ∈ visits calls := by
  constructor
  · exact hcalls _ (before_mem_of_shown hp)
  · rw [← map_shown]
    exact List.mem_map_of_mem hp

/-- What is reached is shown. -/
theorem exists_shown {calls : List Call} {id : NodeId} (h : id ∈ visits calls) :
    ∃ b, (b, id) ∈ shown calls := by
  rw [← map_shown, List.mem_map] at h
  obtain ⟨⟨b, _⟩, hmem, rfl⟩ := h
  exact ⟨b, hmem⟩

/-- A visitor descends into what it is shown. -/
theorem descents_sublist_shown (v : Visitor σ) (m : σ) (calls : List Call) :
    (descents v m calls).Sublist (shown calls) := by
  induction calls generalizing m with
  | nil => exact .slnil
  | cons call calls ih =>
    cases call with
    | after a id => exact ih (v.after a id m)
    | before a id =>
      cases hb : v.before a id m with
      | mk answer m' =>
      cases answer with
      | skip =>
        rw [descents_skip hb]
        exact (ih m').cons _
      | descend =>
        rw [descents_descend hb]
        exact (ih m').cons_cons _

/-- A visitor that always descends does so into everything it is shown. -/
theorem descents_eq_shown (hv : Continues v) (calls : List Call) :
    descents v m calls = shown calls := by
  induction calls generalizing m with
  | nil => rfl
  | cons call calls ih =>
    cases call with
    | after a id => exact ih
    | before a id =>
      have hb : v.before a id m = (.descend, (v.before a id m).2) :=
        Prod.ext (hv a id m) rfl
      rw [descents_descend hb, ih, shown_before]

/-! ### What happens -/

/-- What is reported of a node that a visitor wants to descend into. -/
def unknownKind? (a : Arena) (id : NodeId) : Option UnknownKind :=
  if a.childSlots id = none then some ⟨(a.kind id).name, id⟩ else none

section Traversal

variable {nulls : Bool} {parent : Option NodeId} {slots : List (Option NodeId)} {t t₁ u : Scene σ}
  {calls : List Call}

/-- Reaching something leaves what is remembered alone, and of what is reported it changes only the
number of placeholders. -/
theorem scene_of_reach {slot : Option NodeId} {id : NodeId}
    (hr : t.reach nulls parent slot = some (id, t₁)) :
    t₁.memory = t.memory ∧ t₁.report = { t.report with
      synthesized := t.report.synthesized + if nulls then [slot].count none else 0 } := by
  rcases reach_cases hr with ⟨rfl, rfl⟩ | ⟨rfl, rfl, -, owner, -, rfl⟩
  · constructor
    · rfl
    · cases nulls <;> simp
  · exact ⟨rfl, rfl⟩

/-- Whether something is reached through a slot does not depend on what is remembered. -/
theorem reach_none_beside {slot : Option NodeId}
    (hr : t.reach nulls parent slot = none) (t' : Scene τ) :
    t'.reach nulls parent slot = none := by
  cases slot <;> cases nulls <;> cases parent <;> simp [Scene.reach] at hr ⊢

/-- What is reached through a slot is the same on trees that are the same. -/
theorem reach_beside {slot : Option NodeId} {id : NodeId}
    (hr : t.reach nulls parent slot = some (id, t₁)) (t' : Scene τ) :
    ∃ id' t₁', t'.reach nulls parent slot = some (id', t₁') ∧ t₁'.memory = t'.memory ∧
      (t'.arena = t.arena → id' = id ∧ t₁'.arena = t₁.arena) := by
  rcases reach_cases hr with ⟨rfl, rfl⟩ | ⟨rfl, rfl, rfl, owner, rfl, rfl⟩
  · exact ⟨id, _, rfl, rfl, fun h => ⟨rfl, by rw [h]⟩⟩
  · exact ⟨_, _, rfl, rfl, fun h => ⟨by rw [h], by rw [h]⟩⟩

theorem lt_of_reach {a : Arena} (h : a.Grown t.arena) {slot : Option NodeId} {id : NodeId}
    (hslot : ∀ id, slot = some id → id < a.size)
    (hr : t.reach nulls parent slot = some (id, t₁)) : id < t₁.arena.size := by
  rcases reach_cases hr with ⟨rfl, rfl⟩ | ⟨-, -, rfl, owner, -, rfl⟩
  · have hlt := Nat.lt_of_lt_of_le (hslot id rfl) h.size
    simpa [Arena.setParent] using hlt
  · simp

/-- Where the slots hold nodes of the arena, what is shown is a node of the tree or a placeholder
that is there. -/
theorem Traverses.lt_of_shown {a : Arena} (hin : ∀ p id, a.HasSlot p id → id < a.size)
    (ht : Traverses v nulls parent slots t calls u) (h : a.Grown t.arena)
    (hslots : ∀ id, some id ∈ slots → id < a.size) : ∀ p ∈ shown calls, p.2 < p.1.size := by
  induction ht with
  | nil => exact List.forall_mem_nil _
  | hole hr _ ih => exact ih h fun id hid => hslots id (List.mem_cons_of_mem _ hid)
  | skip hr hb _ ih
  | unknown hr hb hs _ ih =>
    have h₁ := grown_of_reach h hr
    have hlt := lt_of_reach h (fun id hid => hslots id (hid ▸ List.mem_cons_self)) hr
    exact List.forall_mem_cons.mpr
      ⟨hlt, ih h₁ fun id hid => hslots id (List.mem_cons_of_mem _ hid)⟩
  | @descend _ _ _ _ _ _ _ _ _ _ id _ hr hb hs hinner _ ih₁ ih₂ =>
    have h₁ := grown_of_reach h hr
    have hlt := lt_of_reach h (fun id hid => hslots id (hid ▸ List.mem_cons_self)) hr
    have hbelow := ih₁ h₁ fun id' hid' => hin id id' (hasSlot_of_reached h hr hs hid')
    have hrest := ih₂ (hinner.grown h₁).1 fun id hid => hslots id (List.mem_cons_of_mem _ hid)
    simp only [shown, List.filterMap_cons, List.filterMap_append] at hbelow hrest ⊢
    exact List.forall_mem_cons.mpr ⟨hlt, List.forall_mem_append.mpr ⟨hbelow, hrest⟩⟩

/-- **What is remembered after a traversal** is what its calls tell. -/
theorem Traverses.memory_eq (ht : Traverses v nulls parent slots t calls u) :
    u.memory = told v t.memory calls := by
  induction ht with
  | nil => rfl
  | hole hr _ ih => exact ih
  | skip hr hb _ ih
  | unknown hr hb hs _ ih =>
    obtain ⟨hm, -⟩ := scene_of_reach hr
    rw [ih, told_cons, told_cons, tell_before, ← hm, hb]
    rfl
  | @descend _ _ _ _ t t₁ t₂ _ inner calls id m hr hb hs _ _ ih₁ ih₂ =>
    obtain ⟨hm, -⟩ := scene_of_reach hr
    have hinner : t₂.memory = told v m inner := ih₁
    have hrest : told v (v.after t₂.arena id t₂.memory) calls = _ := ih₂.symm
    rw [told_cons, told_append, told_cons, tell_before, ← hm, hb, ← hinner, tell_after, hrest]

/-- A node in the first slot is reached. -/
theorem Traverses.visits_ne_nil {id : NodeId} {rest : List (Option NodeId)}
    (ht : Traverses v nulls parent (some id :: rest) t calls u) : visits calls ≠ [] := by
  cases ht with
  | hole hr _ => cases hr
  | skip _ _ _
  | unknown _ _ _ _ => exact List.cons_ne_nil _ _
  | descend _ _ _ _ _ => exact List.cons_ne_nil _ _

theorem count_slots (slot : Option NodeId) (rest : List (Option NodeId)) :
    (slot :: rest).count none = [slot].count none + rest.count none := by
  rw [← List.singleton_append, List.count_append]

/-- **What is reported of a traversal** is told by its calls: how many nodes are reached, into how
many of these the visitor does not descend, and what is met in the others, which are unknown kinds
and, if nulls are walked, the empty slots. -/
theorem Traverses.report_eq (ht : Traverses v nulls parent slots t calls u)
    (hp : none ∈ slots → parent.isSome) :
    let into := descents v t.memory calls
    u.report.visited = t.report.visited + (visits calls).length ∧
    u.report.skipped + into.length = t.report.skipped + (visits calls).length ∧
    u.report.unknownKinds.toList =
      t.report.unknownKinds.toList ++ into.filterMap (fun p => unknownKind? p.1 p.2) ∧
    u.report.synthesized = t.report.synthesized +
      if nulls then slots.count none + (into.map fun p => (p.1.slotsOf p.2).count none).sum
      else 0 := by
  induction ht with
  | nil => cases nulls <;> simp
  | @hole parent slot rest t u calls hr _ ih =>
    obtain ⟨hv, hs, hk, hsyn⟩ := ih fun hmem => hp (List.mem_cons_of_mem slot hmem)
    refine ⟨hv, hs, hk, ?_⟩
    cases slot with
    | some id => cases hr
    | none =>
      -- the slot has an owner, so it is passed over because nulls are not walked
      obtain ⟨owner, rfl⟩ := Option.isSome_iff_exists.mp (hp List.mem_cons_self)
      cases nulls with
      | true => cases hr
      | false => exact hsyn
  | @skip _ slot rest t t₁ u calls id m hr hb _ ih =>
    obtain ⟨hv, hs, hk, hsyn⟩ := ih fun hmem => hp (List.mem_cons_of_mem slot hmem)
    obtain ⟨hm, hrep⟩ := scene_of_reach hr
    have hafter : ((t₁.shown m).declined.leave v id).report = { t₁.report with
        visited := t₁.report.visited + 1, skipped := t₁.report.skipped + 1 } := rfl
    have hinto : descents v t.memory (.before t₁.arena id :: .after t₁.arena id :: calls) =
        descents v ((t₁.shown m).declined.leave v id).memory calls := by
      rw [← hm, descents_skip hb]
      rfl
    rw [hafter, hrep] at hv hs hk hsyn
    simp only [hinto, visits_before, visits_after, List.length_cons, count_slots slot rest] at *
    refine ⟨by omega, by omega, hk, ?_⟩
    cases nulls <;> simp only [if_true, if_false, Bool.false_eq_true] at * <;> omega
  | @unknown _ slot rest t t₁ u calls id m hr hb hunknown _ ih =>
    obtain ⟨hv, hs, hk, hsyn⟩ := ih fun hmem => hp (List.mem_cons_of_mem slot hmem)
    obtain ⟨hm, hrep⟩ := scene_of_reach hr
    have hafter : (((t₁.shown m).stuckAt id).leave v id).report = { t₁.report with
        visited := t₁.report.visited + 1
        unknownKinds := t₁.report.unknownKinds.push ⟨(t₁.arena.kind id).name, id⟩ } := rfl
    have hinto : descents v t.memory (.before t₁.arena id :: .after t₁.arena id :: calls) =
        (t₁.arena, id) :: descents v (((t₁.shown m).stuckAt id).leave v id).memory calls := by
      rw [← hm, descents_descend hb]
      rfl
    have hkind : unknownKind? t₁.arena id = some ⟨(t₁.arena.kind id).name, id⟩ := if_pos hunknown
    have hslots : t₁.arena.slotsOf id = [] := by rw [Arena.slotsOf, hunknown, Option.getD_none]
    rw [hafter, hrep] at hv hs hk hsyn
    simp only [hinto, visits_before, visits_after, List.length_cons, count_slots slot rest,
      List.filterMap_cons, hkind, List.map_cons, hslots, List.sum_cons, List.count_nil,
      Array.toList_push, List.append_assoc, List.singleton_append] at *
    refine ⟨by omega, by omega, hk, ?_⟩
    cases nulls <;> simp only [if_true, if_false, Bool.false_eq_true] at * <;> omega
  | @descend _ slot rest slots t t₁ t₂ u inner calls id m hr hb hslots hinner _ ih₁ ih₂ =>
    obtain ⟨hv₁, hs₁, hk₁, hsyn₁⟩ := ih₁ fun _ => rfl
    obtain ⟨hv, hs, hk, hsyn⟩ := ih₂ fun hmem => hp (List.mem_cons_of_mem slot hmem)
    obtain ⟨hm, hrep⟩ := scene_of_reach hr
    have hinto : descents v t.memory
          (.before t₁.arena id :: (inner ++ .after t₂.arena id :: calls)) =
        (t₁.arena, id) ::
          (descents v m inner ++ descents v (t₂.leave v id).memory calls) := by
      have htold : told v m inner = t₂.memory := hinner.memory_eq.symm
      rw [← hm, descents_descend hb, descents_append, descents_after, htold]
      rfl
    have hshown : (t₁.shown m).report = { t₁.report with visited := t₁.report.visited + 1 } := rfl
    have hleft : (t₂.leave v id).report = t₂.report := rfl
    have hkind : unknownKind? t₁.arena id = none := if_neg (by simp [hslots])
    have hslotsOf : t₁.arena.slotsOf id = slots := by rw [Arena.slotsOf, hslots, Option.getD_some]
    have hmemory : (t₁.shown m).memory = m := rfl
    rw [hshown, hrep] at hv₁
    rw [hmemory, hshown, hrep] at hs₁ hk₁ hsyn₁
    rw [hleft] at hv hs hk hsyn
    simp only [hinto, visits_before, visits_after, visits_append, List.length_cons,
      List.length_append, count_slots slot rest, List.filterMap_cons, List.filterMap_append, hkind,
      List.map_cons, List.map_append, hslotsOf, List.sum_cons, List.sum_append] at *
    refine ⟨by omega, by omega, ?_, ?_⟩
    · rw [hk, hk₁, List.append_assoc]
    · cases nulls <;> simp only [if_true, if_false, Bool.false_eq_true] at * <;> omega

end Traversal

/-! ### Open nodes -/

/-- The open nodes after a call, innermost first, given those before it. -/
def Call.turn (path : List NodeId) : Call → List NodeId
  | before _ id => id :: path
  | after _ _ => path.tail

/-- The open nodes after some calls, innermost first, given those before them. -/
def opened (path : List NodeId) (calls : List Call) : List NodeId := calls.foldl Call.turn path

/-- Each call has the property `P` together with the nodes that are open before it. -/
def Along (P : List NodeId → Call → Prop) : List NodeId → List Call → Prop
  | _, [] => True
  | path, call :: calls => P path call ∧ Along P (call.turn path) calls

variable {P : List NodeId → Call → Prop} {path : List NodeId}

@[simp] theorem opened_nil : opened path [] = path := rfl

@[simp] theorem opened_cons (call : Call) (calls : List Call) :
    opened path (call :: calls) = opened (call.turn path) calls := rfl

@[simp] theorem opened_append (calls later : List Call) :
    opened path (calls ++ later) = opened (opened path calls) later :=
  List.foldl_append

@[simp] theorem turn_before (a : Arena) (id : NodeId) :
    Call.turn path (.before a id) = id :: path := rfl

@[simp] theorem turn_after (a : Arena) (id : NodeId) : Call.turn path (.after a id) = path.tail :=
  rfl

@[simp] theorem along_nil : Along P path [] := trivial

@[simp] theorem along_cons {call : Call} {calls : List Call} :
    Along P path (call :: calls) ↔ P path call ∧ Along P (call.turn path) calls := Iff.rfl

theorem along_append {calls later : List Call} :
    Along P path (calls ++ later) ↔ Along P path calls ∧ Along P (opened path calls) later := by
  induction calls generalizing path with
  | nil => simp
  | cons call calls ih => simp [ih, and_assoc]

/-- What holds along the calls holds after any number of them. -/
theorem along_iff {calls : List Call} :
    Along P path calls ↔
      ∀ earlier call later, calls = earlier ++ call :: later → P (opened path earlier) call := by
  induction calls generalizing path with
  | nil => simp
  | cons call calls ih =>
    rw [along_cons, ih]
    constructor
    · rintro ⟨hcall, hrest⟩ earlier call' later heq
      cases earlier with
      | nil =>
        obtain ⟨rfl, -⟩ := List.cons.inj heq
        exact hcall
      | cons first earlier =>
        obtain ⟨rfl, rfl⟩ := List.cons.inj heq
        exact hrest earlier call' later rfl
    · intro h
      refine ⟨h [] call calls rfl, fun earlier call' later heq => ?_⟩
      exact h (call :: earlier) call' later (congrArg (call :: ·) heq)

theorem Along.imp {Q : List NodeId → Call → Prop} {calls : List Call} (h : Along P path calls)
    (hPQ : ∀ path, ∀ call ∈ calls, P path call → Q path call) : Along Q path calls := by
  induction calls generalizing path with
  | nil => exact along_nil
  | cons call calls ih =>
    obtain ⟨hcall, hrest⟩ := h
    exact ⟨hPQ path call List.mem_cons_self hcall,
      ih hrest fun path call hmem => hPQ path call (List.mem_cons_of_mem _ hmem)⟩

/-- The node that a call is about. -/
def Call.node : Call → NodeId
  | before _ id => id
  | after _ id => id

/-- Of the open nodes `path`, those other than the node of the call are `around`. A node that is
reached is not open before, and a node that is left is the innermost of them. -/
def Call.Around (path around : List NodeId) : Call → Prop
  | before _ _ => path = around
  | after _ id => path = id :: around

/-- **A traversal closes what it opens.** -/
theorem Traverses.opened_eq {nulls : Bool} {parent : Option NodeId} {slots : List (Option NodeId)}
    {t u : Scene σ} {calls : List Call} (ht : Traverses v nulls parent slots t calls u)
    (path : List NodeId) : opened path calls = path := by
  induction ht generalizing path with
  | nil => rfl
  | hole _ _ ih => exact ih path
  | skip _ _ _ ih
  | unknown _ _ _ _ ih => exact ih path
  | descend _ _ _ _ _ ih₁ ih₂ =>
    rw [opened_cons, opened_append, turn_before, ih₁, opened_cons]
    exact ih₂ path

/-! ### Visitors that answer alike -/

/-- Visitors that answer alike do so when they keep lists, and the lists are the same. -/
theorem alike_logging {R : σ → τ → Prop} {w : Visitor τ} (hv : v.Alike R w) :
    (logging v).Alike (fun s t => R s.1 t.1 ∧ s.2 = t.2) (logging w) where
  before a id s t h := by
    obtain ⟨hR, hlog⟩ := h
    obtain ⟨hanswer, hm⟩ := hv.before a id hR
    exact ⟨hanswer, hm, by simp only [logging, hlog]⟩
  after a id s t h := by
    obtain ⟨hR, hlog⟩ := h
    exact ⟨hv.after a id hR, by simp only [logging, hlog]⟩

/-- **What is remembered after a walk** is what its calls tell. -/
theorem walk_memory_eq {a : Arena} {nulls : Bool} {steps : Nat} {root : NodeId}
    (hc : (a.walk v nulls steps root m).complete) :
    (a.walk v nulls steps root m).memory =
      told v m (a.walk (logging v) nulls steps root (m, [])).memory.2 := by
  obtain ⟨calls, u, ht, hwalk⟩ := traverses_of_complete hc
  rw [logged_of_traverses hc ht, hwalk]
  exact ht.memory_eq

/-- **Visitors that answer alike get the same calls** on walks of the same length. -/
theorem walk_same_calls {R : σ → τ → Prop} {w : Visitor τ} (hv : v.Alike R w) (a : Arena)
    (nulls : Bool) (steps : Nat) (root : NodeId) {m' : τ} (h : R m m') :
    (a.walk (logging v) nulls steps root (m, [])).memory.2 =
      (a.walk (logging w) nulls steps root (m', [])).memory.2 ∧
    (a.walk v nulls steps root m).complete = (a.walk w nulls steps root m').complete := by
  obtain ⟨-, -, hcalls⟩ := @walk_lockstep _ _ _ _ _ (alike_logging hv) a nulls steps root (m, [])
    (m', []) ⟨h, rfl⟩
  obtain ⟨-, hcomplete, -⟩ := walk_congr Arena.lookalikes_eq hv.over (Eq.refl a) nulls steps root h
  exact ⟨hcalls, hcomplete⟩

end Walk

end Estree
