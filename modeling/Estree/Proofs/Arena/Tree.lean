import Estree.Proofs.Arena.Loading
import Mathlib.Data.List.Nodup
import Mathlib.Data.List.Range

/-!
# Documents as trees

Nothing in an arena keeps a node from being in several fields, or in none. In the arena of a
document every node but the root is in one field of one node, and this node has a smaller index: the
reader appends a node when it meets it, and stores it at once in the field it was met in.

So after a member has been stored, the nodes that are in fields are those that have been appended
after the root, each once (`Numbered`). The invariant of the reader is needed for this: a field is
not stored twice, so no child is lost.

* `Reading.finish_induction`: what adding nodes and storing members keeps, is kept by reading;
* `Numbered.store`, `Numbered.fill`, `Numbered.finish`: the nodes in fields are kept numbered;
* `tree_of_ofValue?`: the arena of a document is a tree.
-/

namespace Estree

open Json (Value)

/-- The nodes that a field holds. -/
def Child.links (c : Child) : List NodeId := c.slots.reduceOption

/-- The nodes in the fields of a node. -/
def Node.links (n : Node) : List NodeId := n.children.flatMap fun e => e.2.links

/-- The nodes in the fields of all nodes. -/
def Arena.links (a : Arena) : List NodeId := a.nodes.toList.flatMap Node.links

/-- Every node but the root is in one field, of a node with a smaller index. -/
structure Arena.IsTree (a : Arena) : Prop where
  root_lt : root < a.size
  nodup : a.links.Nodup
  mem_iff : ∀ id, id ∈ a.links ↔ root < id ∧ id < a.size
  lt : ∀ owner id, id ∈ (a.node owner).links → owner < id

/-- No node has a parent or stands for an absent child. -/
def Arena.Plain (a : Arena) : Prop := ∀ id, a.parent id = none ∧ (a.node id).synthetic = false

/-! ### Nodes in fields -/

theorem Dict.perm_insert {α : Type} {d : Dict α} {key : String} (h : d.get? key = none)
    (value : α) : (d.insert key value).Perm ((key, value) :: d) := by
  induction d with
  | nil => exact .refl _
  | cons e d ih =>
    obtain ⟨k, v⟩ := e
    rw [Dict.get?_cons] at h
    rw [Dict.insert]
    split
    · exact .refl _
    · split
      · next hk =>
        rw [if_pos hk.symm] at h
        cases h
      · next hk =>
        rw [if_neg (Ne.symm hk)] at h
        exact ((ih h).cons (k, v)).trans (.swap _ _ d)

namespace Arena

theorem links_eq (a : Arena) :
    a.links = (List.range a.size).flatMap fun owner => (a.node owner).links := by
  rw [links, toList_nodes, List.flatMap_map]

theorem mem_links_iff {a : Arena} {id : NodeId} :
    id ∈ a.links ↔ ∃ owner < a.size, id ∈ (a.node owner).links := by
  simp [links_eq]

theorem links_add (a : Arena) (kind : Kind) : (a.add kind).links = a.links := by
  simp [links, add, push, Node.links]

/-- When one item is replaced by one that gives more, so much more is given in all. -/
theorem perm_flatMap_modify {α β : Type} {f : α → α} {g : α → List β} {more : List β} {l : List α}
    {i : Nat} {x : α} (hi : l[i]? = some x) (hf : (g (f x)).Perm (more ++ g x)) :
    ((l.modify i f).flatMap g).Perm (more ++ l.flatMap g) := by
  induction l generalizing i with
  | nil => cases hi
  | cons y l ih =>
    cases i with
    | zero =>
      obtain rfl := Option.some.inj hi
      rw [List.modify_zero_cons, List.flatMap_cons, List.flatMap_cons, ← List.append_assoc]
      exact hf.append_right _
    | succ i =>
      rw [List.modify_succ_cons, List.flatMap_cons, List.flatMap_cons]
      exact ((ih hi).append_left (g y)).trans (List.perm_append_comm_assoc _ _ _)

theorem links_modify {a : Arena} {id : NodeId} (hid : id < a.size) {f : Node → Node}
    {more : List NodeId} (hf : (f (a.node id)).links.Perm (more ++ (a.node id).links)) :
    (a.modify id f).links.Perm (more ++ a.links) := by
  have hnode : a.nodes.toList[id]? = some (a.node id) := by simp [toList_nodes, hid]
  unfold links modify
  rw [Array.toList_modify]
  exact perm_flatMap_modify hnode hf

/-- A field that is stored for the first time adds its nodes. -/
theorem links_setChild {a : Arena} {id : NodeId} (hid : id < a.size) {field : String}
    (hnew : (a.node id).child? field = none) (child : Child) :
    (a.setChild id field child).links.Perm (child.links ++ a.links) := by
  refine links_modify hid ?_
  exact (Dict.perm_insert hnew child).flatMap_right _

theorem links_setProp (a : Arena) (id : NodeId) (key : String) (value : Value) :
    (a.setProp id key value).links = a.links := by
  unfold links setProp modify
  rw [Array.toList_modify, List.flatMap_def, List.flatMap_def]
  refine congrArg List.flatten (List.ext_getElem? fun i => ?_)
  rw [List.getElem?_map, List.getElem?_map, List.getElem?_modify]
  cases a.nodes.toList[i]? with
  | none => rfl
  | some n =>
    by_cases h : id = i
    · simp [h, Node.links]
    · simp [h]

end Arena

namespace Reading

/-! ### What reading keeps -/

section Induction

variable {P : Arena → Prop} (hadd : ∀ a kind, P a → P (a.add kind))
  (hchild : ∀ a id field child, P a → P (a.setChild id field child))
  (hprop : ∀ a id key value, P a → P (a.setProp id key value))

include hadd in
theorem appendList_induction (r : Reading) (items : List (Option (Dict Value))) (h : P r.arena) :
    P (r.appendList items).arena := by
  induction items generalizing r with
  | nil => exact h
  | cons item items ih =>
    cases item with
    | none => exact ih r h
    | some members => exact ih (r.append members) (hadd _ _ h)

include hadd hchild hprop

theorem store_induction (id : NodeId) (r : Reading) (key : String) (m : Member) (h : P r.arena) :
    P (r.store id key m).arena := by
  cases m with
  | node members => exact hchild _ _ _ _ (hadd _ _ h)
  | list items => exact hchild _ _ _ _ (appendList_induction hadd r items h)
  | prop value => exact hprop _ _ _ _ h

theorem fill_induction (id : NodeId) (r : Reading) (members : Dict Value) (h : P r.arena) :
    P (r.fill id members).arena := by
  induction members generalizing r with
  | nil => exact h
  | cons e members ih =>
    obtain ⟨key, v⟩ := e
    rw [fill]
    split
    · exact ih r h
    · exact ih _ (store_induction hadd hchild hprop id r key _ h)

/-- What adding nodes and storing members keeps, is kept by reading. -/
theorem finish_induction (r : Reading) (h : P r.arena) : P r.finish := by
  induction r using Reading.finish.induct with
  | case1 r hr =>
    rw [finish_of_nil hr]
    exact h
  | case2 r id members rest hr ih =>
    rw [finish_of_cons hr]
    exact ih (fill_induction hadd hchild hprop id _ members h)

end Induction

/-! ### The nodes in fields -/

/-- The nodes that are in fields are those after the root, each once. -/
structure Numbered (a : Arena) : Prop where
  pos : 0 < a.size
  links : a.links.Perm (List.range' 1 (a.size - 1))

theorem links_appendList (r : Reading) (items : List (Option (Dict Value))) :
    (r.appendList items).arena.links = r.arena.links :=
  appendList_induction (P := fun a => a.links = r.arena.links)
    (fun a kind h => (Arena.links_add a kind).trans h) r items rfl

theorem size_appendList (r : Reading) (items : List (Option (Dict Value))) :
    (r.appendList items).arena.size = r.arena.size + items.reduceOption.length := by
  induction items generalizing r with
  | nil => rfl
  | cons item items ih =>
    cases item with
    | none => exact ih r
    | some members =>
      have hsize : (r.append members).arena.size = r.arena.size + 1 := Arena.size_push _ _
      rw [appendList, ih, hsize, List.reduceOption_cons_of_some, List.length_cons]
      omega

/-- The nodes that were there stay as they are. -/
theorem node_appendList {id : NodeId} (r : Reading) (items : List (Option (Dict Value)))
    (hid : id < r.arena.size) : (r.appendList items).arena.node id = r.arena.node id := by
  induction items generalizing r with
  | nil => rfl
  | cons item items ih =>
    cases item with
    | none => exact ih r hid
    | some members =>
      have hsize : (r.append members).arena.size = r.arena.size + 1 := Arena.size_push _ _
      rw [appendList, ih _ (hsize ▸ Nat.lt_succ_of_lt hid)]
      exact Arena.node_push_of_ne (Nat.ne_of_lt hid)

theorem reduceOption_placeIds (next : NodeId) (items : List (Option (Dict Value))) :
    (placeIds next items).reduceOption = List.range' next items.reduceOption.length := by
  induction items generalizing next with
  | nil => rfl
  | cons item items ih =>
    cases item with
    | none => exact ih next
    | some members =>
      rw [placeIds, List.reduceOption_cons_of_some, ih, List.reduceOption_cons_of_some,
        List.length_cons, List.range'_succ]

/-- Storing nodes that have just been appended keeps the nodes numbered. -/
theorem Numbered.setChild {a b : Arena} (h : Numbered a) {id : NodeId} (hid : id < a.size)
    {field : String} (hnew : (a.node id).child? field = none) {count : Nat} {child : Child}
    (hsize : b.size = a.size + count) (hlinks : b.links = a.links) (hnode : b.node id = a.node id)
    (hchild : child.links = List.range' a.size count) : Numbered (b.setChild id field child) := by
  have hpos := h.pos
  have hsize' : (b.setChild id field child).size = a.size + count :=
    (Arena.size_modify b id _).trans hsize
  refine ⟨hsize' ▸ Nat.add_pos_left hpos count, ?_⟩
  have hlt : id < b.size := hsize ▸ Nat.lt_add_right count hid
  have hperm := Arena.links_setChild hlt (hnode ▸ hnew) child
  rw [hchild, hlinks] at hperm
  have hrange : List.range' 1 (a.size - 1) ++ List.range' a.size count =
      List.range' 1 (a.size + count - 1) := by
    have hcount : a.size - 1 + count = a.size + count - 1 := by omega
    rw [← hcount, ← List.range'_append_1, Nat.add_sub_cancel' hpos]
  rw [hsize', ← hrange]
  exact hperm.trans (List.perm_append_comm.trans (h.links.append_right _))

variable {doc : Value} {src : List (Dict Value)} {id : NodeId} {seen rest : Dict Value}
  {key : String} {v : Value}

/-- **Storing a member keeps the nodes numbered.** -/
theorem Numbered.store (hdoc : doc.Normal) {r : Reading} (hn : Numbered r.arena)
    (h : Sound doc src (r.jobs ++ [⟨id, seen, (key, v) :: rest⟩]) r.arena) (hkey : key ≠ "type") :
    Numbered (r.store id key (Member.ofValue v)).arena := by
  obtain ⟨-, hnew, -⟩ := h.memberAt_next hdoc hkey
  have hid := h.lt_size h.busy.1
  obtain ⟨hfree, -⟩ := h.busy.2.absent (memberAt_eq_none hnew)
  cases Member.ofValue v with
  | node members =>
    exact hn.setChild hid hfree (Arena.size_push _ _) (Arena.links_add _ _)
      (Arena.node_push_of_ne (Nat.ne_of_lt hid)) rfl
  | list items =>
    exact hn.setChild hid hfree (size_appendList r items) (links_appendList r items)
      (node_appendList r items hid) (reduceOption_placeIds _ items)
  | prop value =>
    refine ⟨?_, ?_⟩
    · rw [Reading.store, mapArena, Arena.setProp, Arena.size_modify]
      exact hn.pos
    · rw [Reading.store, mapArena, Arena.links_setProp, Arena.setProp, Arena.size_modify]
      exact hn.links

/-- **Storing all members of a node keeps the nodes numbered.** -/
theorem Numbered.fill (hdoc : doc.Normal) {r : Reading} (hn : Numbered r.arena)
    (h : Sound doc src (r.jobs ++ [⟨id, seen, rest⟩]) r.arena) :
    Numbered (r.fill id rest).arena := by
  induction rest generalizing r src seen with
  | nil => exact hn
  | cons e rest ih =>
    obtain ⟨key, v⟩ := e
    rw [Reading.fill]
    by_cases hkey : key = "type"
    · subst hkey
      rw [if_pos rfl]
      exact ih hn (h.advance rfl (fun _ _ => rfl) rfl Holds.tag)
    · rw [if_neg hkey]
      obtain ⟨src₁, -, h₁⟩ := h.store hdoc hkey
      exact ih (hn.store hdoc h hkey) h₁

/-- **When the stack is empty, the nodes are numbered.** -/
theorem Numbered.finish (hdoc : doc.Normal) (r : Reading) (hn : Numbered r.arena)
    (h : Sound doc src r.jobs r.arena) : Numbered r.finish := by
  induction r using Reading.finish.induct generalizing src with
  | case1 r hr =>
    rw [finish_of_nil hr]
    exact hn
  | case2 r id members rest hr ih =>
    rw [finish_of_cons hr]
    rw [Reading.jobs, hr] at h
    have hstart : Sound doc src (Reading.jobs ⟨r.arena, rest⟩ ++ [⟨id, [], members⟩]) r.arena :=
      h.rotate
    have hn' : Numbered (Reading.fill id ⟨r.arena, rest⟩ members).arena :=
      Numbered.fill hdoc hn hstart
    obtain ⟨src₁, -, h₁⟩ := hstart.fill hdoc
    exact ih hn' h₁.finished

/-! ### The fields of complete nodes -/

theorem lt_of_places {owner : NodeId} {items : List (Option (Dict Value))}
    {ids : List (Option NodeId)} (h : List.Forall₂ (PlaceKept src owner) items ids) {id : NodeId}
    (hid : some id ∈ ids) : owner < id := by
  induction h with
  | nil => cases hid
  | cons hplace _ ih =>
    rcases List.mem_cons.mp hid with rfl | hid
    · cases hplace with
      | node hlt _ => exact hlt
    · exact ih hid

/-- The children of a complete node come after it. -/
theorem Holds.lt_of_mem_links {owner : NodeId} {n : Node} {members : Dict Value}
    (h : Holds src owner n members) {id : NodeId} (hid : id ∈ n.links) : owner < id := by
  obtain ⟨⟨key, c⟩, hmem, hid⟩ := List.mem_flatMap.mp hid
  have hget : n.child? key = some c := Dict.get?_of_mem h.children hmem
  have hkept := h.kept key
  rw [hget] at hkept
  generalize memberAt members key = m, n.prop? key = p at hkept
  cases hkept with
  | node hplace =>
    cases hplace with
    | node hlt _ =>
      obtain rfl := List.mem_singleton.mp hid
      exact hlt
  | list hplaces => exact lt_of_places hplaces (List.reduceOption_mem_iff.mp hid)

end Reading

/-! ### The tree of a document -/

open Reading

/-- **The arena of a document is a tree.** -/
theorem tree_of_ofValue? {doc : Value} (hdoc : doc.Normal) {a : Arena}
    (h : Arena.ofValue? doc = some a) : a.IsTree := by
  obtain ⟨src, -, hsound, -, -⟩ := sound_of_ofValue? hdoc h
  obtain ⟨members, hm, rfl⟩ := Option.map_eq_some_iff.mp h
  have hroot : Sound doc [members] (Reading.append ⟨Arena.empty, []⟩ members).jobs
      (Reading.append ⟨Arena.empty, []⟩ members).arena := Sound.nil.add (.root hm)
  have hstart : Numbered (Reading.append ⟨Arena.empty, []⟩ members).arena :=
    ⟨Nat.one_pos, .refl _⟩
  obtain ⟨hpos, hlinks⟩ : Numbered (Arena.ofMembers members) := hstart.finish hdoc _ hroot
  refine ⟨hpos, hlinks.nodup_iff.mpr List.nodup_range', fun id => ?_, fun owner id hid => ?_⟩
  · rw [hlinks.mem_iff, List.mem_range'_1, Nat.add_sub_cancel' hpos]
    rfl
  · rcases Nat.lt_or_ge owner (Arena.ofMembers members).size with hlt | hle
    · have hget := List.getElem?_eq_getElem (hsound.size ▸ hlt)
      exact (hsound.complete owner _ hget List.not_mem_nil).lt_of_mem_links hid
    · rw [Arena.node_of_le hle] at hid
      cases hid

theorem plain_add {a : Arena} (h : a.Plain) (kind : Kind) : (a.add kind).Plain := by
  intro id
  rw [Arena.parent, Arena.add, Arena.node_push]
  split
  · exact ⟨rfl, rfl⟩
  · exact h id

theorem plain_modify {a : Arena} (h : a.Plain) (id : NodeId) {f : Node → Node}
    (hf : ∀ n, (f n).parent = n.parent ∧ (f n).synthetic = n.synthetic) :
    (a.modify id f).Plain := by
  intro id'
  rcases Arena.node_modify_or a id f id' with hnode | hnode
  · rw [Arena.parent, hnode, (hf _).1, (hf _).2]
    exact h id'
  · rw [Arena.parent, hnode]
    exact h id'

/-- No node of a document has a parent, and none is a placeholder. -/
theorem plain_of_ofValue? {doc : Value} {a : Arena} (h : Arena.ofValue? doc = some a) :
    a.Plain := by
  obtain ⟨members, -, rfl⟩ := Option.map_eq_some_iff.mp h
  refine finish_induction (P := Arena.Plain) (fun a kind h => plain_add h kind)
    (fun a id field child h => plain_modify h id fun _ => ⟨rfl, rfl⟩)
    (fun a id key value h => plain_modify h id fun _ => ⟨rfl, rfl⟩) _ ?_
  have hempty : Arena.empty.Plain := by
    intro id
    rw [Arena.parent, Arena.node_of_le (Nat.zero_le id)]
    exact ⟨rfl, rfl⟩
  exact plain_add hempty _

end Estree
