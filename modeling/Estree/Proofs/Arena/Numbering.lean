import Estree.Proofs.Arena.Rebuild
import Estree.Proofs.Arena.Tree
import Mathlib.Data.List.Range

/-!
# How the nodes of a document are numbered

The reader gives a node its index when it meets the node, and looks at its members only later. The
nodes that wait are kept on a stack. So the children of a node get indices that follow one another,
and what is below the last child is numbered before what is below the others. `Skeleton.number` says
this as a recursion: it takes from the document no more than which fields hold nodes and in which
places.

A node of a document is named by the way to it from the root, field by field.

* `Skeleton.ofMembers`: the nodes below a node of a document, without what they are;
* `Reading.filled_fill`: what storing the members of a node does;
* `Skeleton.Fits`: an arena in which the nodes below some children are numbered by the recursion;
* `Reading.finish_completed`: the stack amounts to the recursion;
* `document_numbered`: the indices in the arena of a document.
-/

namespace Estree

open Json (Value)

/-! ### Ways through a document -/

/-- From a node to a node in one of its fields. If the field holds a list, the place in the list is
told as well. -/
structure Step where
  field : String
  place : Option Nat := none
  deriving DecidableEq, Repr

/-- The node in a field, or in one place of the list in it. -/
def Child.at? : Child → Option Nat → Option NodeId
  | node id, none => some id
  | list items, some i => items[i]?.join
  | _, _ => none

/-- The node that a step leads to in an arena. -/
def Arena.atStep (a : Arena) (id : NodeId) (step : Step) : Option NodeId :=
  ((a.node id).child? step.field).bind (·.at? step.place)

/-- The node that a way leads to in an arena. -/
def Arena.follow (a : Arena) (id : NodeId) : List Step → Option NodeId
  | [] => some id
  | step :: way => (a.atStep id step).bind (a.follow · way)

/-- The node in a member, or in one place of the list in it. -/
def Member.at? : Member → Option Nat → Option (Dict Value)
  | node members, none => some members
  | list items, some i => items[i]?.join
  | _, _ => none

/-- The members of the node that a step leads to in a document. -/
def memberAtStep (members : Dict Value) (step : Step) : Option (Dict Value) :=
  (memberAt members step.field).bind (·.at? step.place)

/-- The members of the node that a way leads to in a document. -/
def followMembers (members : Dict Value) : List Step → Option (Dict Value)
  | [] => some members
  | step :: way => (memberAtStep members step).bind (followMembers · way)

/-! ### Skeletons -/

/-- The nodes below a node, in the order they are met: a row of children, each with the step that
leads to it and the nodes below it. -/
inductive Skeleton where
  | nil
  | child (step : Step) (below rest : Skeleton)
  deriving DecidableEq, Repr

namespace Skeleton

/-- The steps to the children. -/
def steps : Skeleton → List Step
  | nil => []
  | child step _ rest => step :: rest.steps

/-- How many children there are. -/
def width (row : Skeleton) : Nat := row.steps.length

/-- Number the nodes of a row. Its children have the indices from `first` on, and the indices from
`next` on are free. What is below a child comes after what is below the children that follow it: the
children of the child get the next indices, and then the nodes below these are numbered. Tells the
ways to the nodes with their indices, and which indices are still free. -/
def number (first next : NodeId) : Skeleton → List (List Step × NodeId) × NodeId
  | nil => ([], next)
  | child step below rest =>
    let later := number (first + 1) next rest
    let inner := number later.2 (later.2 + below.width) below
    ((([step], first) :: inner.1.map fun e => (step :: e.1, e.2)) ++ later.1, inner.2)

/-- Number a node with the given nodes below it: the node itself, its children, and what is below
these. -/
def numbering (row : Skeleton) : List (List Step × NodeId) :=
  ([], Arena.root) :: (row.number (Arena.root + 1) (Arena.root + 1 + row.width)).1

end Skeleton

/-- The nodes in a list of places, from place `i` on, with the steps to them. -/
def placedNodes (field : String) (i : Nat) :
    List (Option (Dict Value)) → List (Step × Dict Value)
  | [] => []
  | none :: items => placedNodes field (i + 1) items
  | some members :: items => (⟨field, some i⟩, members) :: placedNodes field (i + 1) items

/-- The nodes that a member holds, with the steps to them. -/
def Member.nodes (field : String) : Member → List (Step × Dict Value)
  | node members => [(⟨field, none⟩, members)]
  | list items => placedNodes field 0 items
  | prop _ => []

/-- The nodes in the members of a node, with the steps to them. -/
def childNodes : Dict Value → List (Step × Dict Value)
  | [] => []
  | (key, v) :: rest =>
    (if key = "type" then [] else (Member.ofValue v).nodes key) ++ childNodes rest

theorem sizeOf_placedNodes {field : String} {i : Nat} {items : List (Option (Dict Value))}
    {e : Step × Dict Value} (h : e ∈ placedNodes field i items) :
    sizeOf e.2 ≤ Reading.itemsWeight items := by
  induction items generalizing i with
  | nil => cases h
  | cons item items ih =>
    cases item with
    | none => exact Nat.le_trans (ih h) (Nat.le_add_left _ _)
    | some members =>
      rcases List.mem_cons.mp h with rfl | h
      · exact Nat.le_add_right _ _
      · exact Nat.le_trans (ih h) (Nat.le_add_left _ _)

theorem sizeOf_childNodes {members : Dict Value} {e : Step × Dict Value}
    (h : e ∈ childNodes members) : sizeOf e.2 < sizeOf members := by
  induction members with
  | nil => cases h
  | cons m rest ih =>
    obtain ⟨key, v⟩ := m
    have hle : sizeOf v < sizeOf ((key, v) :: rest) ∧ sizeOf rest < sizeOf ((key, v) :: rest) := by
      simp only [List.cons.sizeOf_spec, Prod.mk.sizeOf_spec]
      omega
    rcases List.mem_append.mp h with h | h
    · split at h
      · cases h
      · have hweight := Reading.memberWeight_ofValue v
        refine Nat.lt_of_le_of_lt ?_ (Nat.lt_trans hweight hle.1)
        cases hv : Member.ofValue v with
        | node child =>
          rw [hv] at h
          rw [List.mem_singleton.mp h]
          exact Nat.le_refl _
        | list items => exact sizeOf_placedNodes (hv ▸ h)
        | prop w =>
          rw [hv] at h
          cases h
    · exact Nat.lt_trans (ih h) hle.2

namespace Skeleton

/-- The nodes below a node with the given members. -/
def ofMembers (members : Dict Value) : Skeleton :=
  (childNodes members).attach.foldr (fun e row => child e.1.1 (ofMembers e.1.2) row) nil
termination_by sizeOf members
decreasing_by exact sizeOf_childNodes e.2

/-- A row of some children. -/
def ofChildren (nodes : List (Step × Dict Value)) : Skeleton :=
  nodes.foldr (fun e row => child e.1 (ofMembers e.2) row) nil

theorem ofMembers_eq (members : Dict Value) :
    ofMembers members = ofChildren (childNodes members) := by
  rw [ofMembers, ofChildren]
  exact List.foldr_attach (f := fun (e : Step × Dict Value) row => child e.1 (ofMembers e.2) row)

theorem steps_ofChildren (nodes : List (Step × Dict Value)) :
    (ofChildren nodes).steps = nodes.map Prod.fst := by
  induction nodes with
  | nil => rfl
  | cons e nodes ih => exact congrArg (e.1 :: ·) ih

theorem width_ofChildren (nodes : List (Step × Dict Value)) :
    (ofChildren nodes).width = nodes.length := by
  rw [width, steps_ofChildren, List.length_map]

/-- The indices that are given are those of the children and some more, which follow one another
from the first free one on. -/
theorem number_ids (row : Skeleton) (first next : NodeId) :
    ∃ more, (row.number first next).2 = next + more ∧
      ((row.number first next).1.map Prod.snd).Perm
        (List.range' first row.width ++ List.range' next more) := by
  induction row generalizing first next with
  | nil => exact ⟨0, rfl, .refl _⟩
  | child step below rest ihbelow ihrest =>
    rw [number]
    obtain ⟨before, hlater, hrest⟩ := ihrest (first + 1) next
    generalize rest.number (first + 1) next = later at hlater hrest
    obtain ⟨deeper, hinner, hbelow⟩ := ihbelow later.2 (later.2 + below.width)
    generalize below.number later.2 (later.2 + below.width) = inner at hinner hbelow
    have hend : inner.2 = next + (before + (below.width + deeper)) := by
      rw [hinner, hlater, Nat.add_assoc, Nat.add_assoc]
    refine ⟨before + (below.width + deeper), hend, ?_⟩
    have hwidth : List.range' first (child step below rest).width =
        first :: List.range' (first + 1) rest.width := List.range'_succ
    rw [hwidth, ← List.range'_append_1, ← List.range'_append_1, ← hlater, List.cons_append,
      ← List.append_assoc, List.cons_append, List.map_cons, List.map_append, List.map_map]
    exact ((hbelow.append hrest).trans List.perm_append_comm).cons first

end Skeleton

namespace Arena

/-- The children of a node are those that the steps lead to, and they have the indices from `first`
on. -/
def HasChildren (a : Arena) (id : NodeId) (steps : List Step) (first : NodeId) : Prop :=
  ∀ step child, a.atStep id step = some child ↔ (step, child) ∈ steps.zipIdx first

theorem child?_setChild {a : Arena} {id : NodeId} (hid : id < a.size) (field : String)
    (child : Child) (field' : String) :
    ((a.setChild id field child).node id).child? field' =
      if field = field' then some child else (a.node id).child? field' := by
  rw [setChild, node_modify_self hid]
  exact Dict.get?_insert _ _ _ _

end Arena

/-! ### Storing the members of a node -/

namespace Reading

/-- The nodes that wait, when they have been appended with the indices from `first` on. The one that
was appended last comes first. -/
def queued (first : NodeId) (nodes : List (Step × Dict Value)) : List (NodeId × Dict Value) :=
  ((nodes.zipIdx first).map fun e => (e.2, e.1.2)).reverse

/-- From `r` to `r'` some nodes have been appended, as children of node `id`. -/
structure Filled (id : NodeId) (r r' : Reading) (nodes : List (Step × Dict Value)) : Prop where
  size : r'.arena.size = r.arena.size + nodes.length
  pending : r'.pending = queued r.arena.size nodes ++ r.pending
  others : ∀ other < r.arena.size, other ≠ id → r'.arena.node other = r.arena.node other
  links : (r'.arena.node id).links =
    (r.arena.node id).links ++ List.range' r.arena.size nodes.length
  steps : ∀ step child, r'.arena.atStep id step = some child ↔
    r.arena.atStep id step = some child ∨
      (step, child) ∈ (nodes.map Prod.fst).zipIdx r.arena.size

theorem queued_append (first : NodeId) (nodes more : List (Step × Dict Value)) :
    queued first (nodes ++ more) = queued (first + nodes.length) more ++ queued first nodes := by
  rw [queued, List.zipIdx_append, List.map_append, List.reverse_append]
  rfl

namespace Filled

variable {id : NodeId} {r r' r'' : Reading} {nodes more : List (Step × Dict Value)}

theorem refl (id : NodeId) (r : Reading) : Filled id r r [] where
  size := rfl
  pending := rfl
  others _ _ _ := rfl
  links := (List.append_nil _).symm
  steps _ _ := by simp

theorem trans (h : Filled id r r' nodes) (h' : Filled id r' r'' more) :
    Filled id r r'' (nodes ++ more) where
  size := by rw [h'.size, h.size, List.length_append, Nat.add_assoc]
  pending := by rw [h'.pending, h.pending, h.size, queued_append, List.append_assoc]
  others other hlt hne := by
    rw [h'.others other (h.size ▸ Nat.lt_add_right _ hlt) hne, h.others other hlt hne]
  links := by
    rw [h'.links, h.links, h.size, List.append_assoc, List.range'_append_1, List.length_append]
  steps step child := by
    rw [h'.steps, h.steps, h.size, List.map_append, List.zipIdx_append, List.mem_append,
      List.length_map, or_assoc]

end Filled

/-! #### One member -/

theorem appendList_eq (r : Reading) (field : String) (i : Nat)
    (items : List (Option (Dict Value))) :
    (r.appendList items).pending =
      queued r.arena.size (placedNodes field i items) ++ r.pending := by
  induction items generalizing r i with
  | nil => rfl
  | cons item items ih =>
    cases item with
    | none => exact ih r (i + 1)
    | some members =>
      have hsize : (r.append members).arena.size = r.arena.size + 1 := Arena.size_push _ _
      have hqueued : queued r.arena.size (placedNodes field i (some members :: items)) =
          queued (r.arena.size + 1) (placedNodes field (i + 1) items) ++
            [(r.arena.size, members)] :=
        queued_append r.arena.size [(⟨field, some i⟩, members)] (placedNodes field (i + 1) items)
      rw [appendList, ih (r.append members) (i + 1), hsize, hqueued, List.append_assoc]
      rfl

theorem length_placedNodes (field : String) (i : Nat) (items : List (Option (Dict Value))) :
    (placedNodes field i items).length = items.reduceOption.length := by
  induction items generalizing i with
  | nil => rfl
  | cons item items ih =>
    cases item with
    | none => exact ih (i + 1)
    | some members => exact congrArg (· + 1) (ih (i + 1))

/-- The steps to the nodes of a list, and the indices that they get. -/
theorem mem_zipIdx_placedNodes (field : String) (i : Nat) (first : NodeId)
    (items : List (Option (Dict Value))) (step : Step) (child : NodeId) :
    (step, child) ∈ ((placedNodes field i items).map Prod.fst).zipIdx first ↔
      ∃ j, step = ⟨field, some (i + j)⟩ ∧ (placeIds first items)[j]? = some (some child) := by
  induction items generalizing i first with
  | nil => simp [placedNodes, placeIds]
  | cons item items ih =>
    cases item with
    | none =>
      rw [placedNodes, placeIds, ih]
      constructor
      · rintro ⟨j, hstep, hj⟩
        exact ⟨j + 1, by rw [hstep, Nat.add_right_comm, Nat.add_assoc], hj⟩
      · rintro ⟨j, hstep, hj⟩
        cases j with
        | zero => cases hj
        | succ j => exact ⟨j, by rw [hstep, Nat.add_right_comm, Nat.add_assoc], hj⟩
    | some members =>
      rw [placedNodes, placeIds, List.map_cons, List.zipIdx_cons, List.mem_cons, ih]
      constructor
      · rintro (heq | ⟨j, hstep, hj⟩)
        · obtain ⟨rfl, rfl⟩ := Prod.mk.inj heq
          exact ⟨0, rfl, rfl⟩
        · exact ⟨j + 1, by rw [hstep, Nat.add_right_comm, Nat.add_assoc], hj⟩
      · rintro ⟨j, hstep, hj⟩
        cases j with
        | zero =>
          obtain rfl := Option.some.inj (Option.some.inj hj)
          exact .inl (hstep ▸ rfl)
        | succ j => exact .inr ⟨j, by rw [hstep, Nat.add_right_comm, Nat.add_assoc], hj⟩

/-- A field is stored after its nodes have been appended. -/
theorem Filled.setChild {id : NodeId} {r r' : Reading} {nodes : List (Step × Dict Value)}
    {key : String} {child : Child} (hid : id < r.arena.size)
    (hlast : ∀ e ∈ (r.arena.node id).children, e.1 < key)
    (hsize : r'.arena.size = r.arena.size + nodes.length)
    (hpending : r'.pending = queued r.arena.size nodes ++ r.pending)
    (hold : ∀ other < r.arena.size, r'.arena.node other = r.arena.node other)
    (hlinks : child.links = List.range' r.arena.size nodes.length)
    (hsteps : ∀ step c, (step, c) ∈ (nodes.map Prod.fst).zipIdx r.arena.size ↔
      step.field = key ∧ child.at? step.place = some c) :
    Filled id r (r'.mapArena (·.setChild id key child)) nodes := by
  have hid' : id < r'.arena.size := hsize ▸ Nat.lt_add_right _ hid
  refine ⟨?_, hpending, ?_, ?_, ?_⟩
  · exact (Arena.size_modify _ _ _).trans hsize
  · intro other hlt hne
    exact (Arena.node_modify_of_ne (Ne.symm hne) _).trans (hold other hlt)
  · rw [mapArena, Arena.setChild, Arena.node_modify_self hid', hold id hid, Node.links,
      Dict.insert_last hlast, List.flatMap_append, List.flatMap_singleton, hlinks]
    rfl
  · intro step c
    rw [hsteps, Arena.atStep, mapArena, Arena.child?_setChild hid', hold id hid]
    by_cases hkey : key = step.field
    · have hnone : (r.arena.node id).child? step.field = none :=
        Dict.get?_eq_none fun e he => ne_of_lt (hkey ▸ hlast e he)
      rw [if_pos hkey, Arena.atStep, hnone]
      simp [hkey]
    · rw [if_neg hkey, Arena.atStep]
      simp [Ne.symm hkey]

/-- Storing a member appends the nodes that it holds. -/
theorem filled_store {id : NodeId} {r : Reading} (hid : id < r.arena.size) {key : String}
    (hlast : ∀ e ∈ (r.arena.node id).children, e.1 < key) (m : Member) :
    Filled id r (r.store id key m) (m.nodes key) := by
  cases m with
  | node members =>
    refine .setChild hid hlast (Arena.size_push _ _) rfl
      (fun other hlt => Arena.node_push_of_ne (Nat.ne_of_lt hlt)) rfl fun step c => ?_
    obtain ⟨field, place⟩ := step
    cases place <;> simp [Member.nodes, Child.at?, eq_comm]
  | list items =>
    have hlength := length_placedNodes key 0 items
    refine .setChild hid hlast (hlength ▸ size_appendList r items) (appendList_eq r key 0 items)
      (fun other hlt => node_appendList r items hlt)
      (hlength ▸ reduceOption_placeIds _ items) fun step c => ?_
    obtain ⟨field, place⟩ := step
    rw [Member.nodes, mem_zipIdx_placedNodes]
    cases place <;> simp [Child.at?, Option.join_eq_some_iff]
  | prop value =>
    refine ⟨(Arena.size_modify _ _ _), rfl, fun other _ hne => ?_, ?_, ?_⟩
    · exact Arena.node_modify_of_ne (Ne.symm hne) _
    · rw [store, mapArena, Arena.setProp, Arena.node_modify_self hid]
      exact (List.append_nil _).symm
    · intro step c
      rw [store, mapArena, Arena.setProp, Arena.atStep, Arena.node_modify_self hid]
      simp only [Member.nodes, List.map_nil, List.zipIdx_nil, List.not_mem_nil, or_false]
      rfl

/-- Storing a member changes no field but its own. -/
theorem mem_children_store {id : NodeId} {r : Reading} (hid : id < r.arena.size) {key : String}
    {m : Member} {e : String × Child} (he : e ∈ ((r.store id key m).arena.node id).children) :
    e.1 = key ∨ e ∈ (r.arena.node id).children := by
  have hset {a : Arena} (hsize : id < a.size) (hold : a.node id = r.arena.node id) (child : Child)
      (he : e ∈ ((a.setChild id key child).node id).children) :
      e.1 = key ∨ e ∈ (r.arena.node id).children := by
    rw [Arena.setChild, Arena.node_modify_self hsize, hold] at he
    exact (Dict.mem_insert he).imp_left fun heq => congrArg Prod.fst heq
  cases m with
  | node members =>
    have hsize : (r.append members).arena.size = r.arena.size + 1 := Arena.size_push _ _
    exact hset (hsize ▸ Nat.lt_succ_of_lt hid) (Arena.node_push_of_ne (Nat.ne_of_lt hid)) _ he
  | list items =>
    exact hset (size_appendList r items ▸ Nat.lt_add_right _ hid) (node_appendList r items hid) _ he
  | prop value =>
    rw [store, mapArena, Arena.setProp, Arena.node_modify_self hid] at he
    exact .inr he

/-- **Storing the members of a node appends its children.** -/
theorem filled_fill {id : NodeId} {r : Reading} (hid : id < r.arena.size) {members : Dict Value}
    (hsorted : members.Sorted)
    (hlast : ∀ e ∈ (r.arena.node id).children, ∀ m ∈ members, e.1 < m.1) :
    Filled id r (r.fill id members) (childNodes members) := by
  induction members generalizing r with
  | nil => exact .refl id r
  | cons m rest ih =>
    obtain ⟨key, v⟩ := m
    obtain ⟨hkey, hrest⟩ := List.pairwise_cons.mp hsorted
    have hlater : ∀ e ∈ (r.arena.node id).children, ∀ m ∈ rest, e.1 < m.1 :=
      fun e he m hm => hlast e he m (List.mem_cons_of_mem _ hm)
    rw [fill, childNodes]
    split
    · exact ih hid hrest hlater
    · have hstore : Filled id r (r.store id key (Member.ofValue v))
          ((Member.ofValue v).nodes key) :=
        filled_store hid (fun e he => hlast e he _ List.mem_cons_self) _
      refine hstore.trans (ih (hstore.size ▸ Nat.lt_add_right _ hid) hrest fun e he m hm => ?_)
      rcases mem_children_store hid he with heq | hold
      · exact heq ▸ hkey m hm
      · exact hlater e hold m hm

end Reading

/-! ### The stack and the recursion -/

/-- What is below the children of a row, which have the indices from `first` on, is numbered by the
recursion, with the indices from `next` on. -/
def Skeleton.Fits (a : Arena) (first next : NodeId) : Skeleton → Prop
  | nil => True
  | child _ below rest =>
    let mid := (rest.number (first + 1) next).2
    rest.Fits a (first + 1) next ∧ a.HasChildren first below.steps mid ∧
      below.Fits a mid (mid + below.width)

namespace Reading

/-- The first free index when what is below a node has been numbered from `next` on. -/
def indexAfter (members : Dict Value) (next : NodeId) : NodeId :=
  let row := Skeleton.ofMembers members
  (row.number next (next + row.width)).2

/-- The nodes that wait and what is below them are numbered by the recursion, one after the
other. -/
def QueueFits (a : Arena) : List (NodeId × Dict Value) → NodeId → Prop
  | [], _ => True
  | (id, members) :: rest, next =>
    let row := Skeleton.ofMembers members
    a.HasChildren id row.steps next ∧ row.Fits a next (next + row.width) ∧
      QueueFits a rest (indexAfter members next)

/-- The first free index when what is below the nodes that wait has been numbered. -/
def indexAfterAll (queue : List (NodeId × Dict Value)) (next : NodeId) : NodeId :=
  queue.foldl (fun next e => indexAfter e.2 next) next

theorem queued_cons (first : NodeId) (e : Step × Dict Value) (nodes : List (Step × Dict Value)) :
    queued first (e :: nodes) = queued (first + 1) nodes ++ [(first, e.2)] :=
  queued_append first [e] nodes

theorem mem_queued (first : Nat) (nodes : List (Step × Dict Value)) (id : Nat) :
    id ∈ (queued first nodes).map Prod.fst ↔ first ≤ id ∧ id < first + nodes.length := by
  have hids : ((nodes.zipIdx first).map fun e => (e.2, e.1.2)).map Prod.fst =
      List.range' first nodes.length := by
    rw [List.map_map]
    exact List.zipIdx_map_snd first nodes
  rw [queued, List.map_reverse, hids, List.mem_reverse, List.mem_range'_1]

/-- The children of a node on the stack are numbered as their row is. -/
theorem queueFits_queued (a : Arena) (nodes : List (Step × Dict Value)) (first next : NodeId)
    (rest : List (NodeId × Dict Value)) :
    indexAfterAll (queued first nodes) next = ((Skeleton.ofChildren nodes).number first next).2 ∧
    (QueueFits a (queued first nodes ++ rest) next ↔
      (Skeleton.ofChildren nodes).Fits a first next ∧
        QueueFits a rest ((Skeleton.ofChildren nodes).number first next).2) := by
  induction nodes generalizing first next rest with
  | nil => exact ⟨rfl, fun h => ⟨trivial, h⟩, And.right⟩
  | cons e nodes ih =>
    obtain ⟨step, members⟩ := e
    have hrow : Skeleton.ofChildren ((step, members) :: nodes) =
        .child step (Skeleton.ofMembers members) (Skeleton.ofChildren nodes) := rfl
    obtain ⟨hend, -⟩ := ih (first + 1) next []
    obtain ⟨-, hfits⟩ := ih (first + 1) next ((first, members) :: rest)
    rw [queued_cons, hrow]
    constructor
    · rw [indexAfterAll, List.foldl_append]
      rw [indexAfterAll] at hend
      rw [hend]
      rfl
    · rw [List.append_assoc, List.singleton_append, hfits, Skeleton.Fits, QueueFits, and_assoc,
        and_assoc]
      rfl

/-- A node in which nothing is stored has no fields. -/
theorem Holds.children_eq_nil {src : List (Dict Value)} {owner : NodeId} {n : Node}
    (h : Holds src owner n []) : n.children = [] := by
  refine List.eq_nil_iff_forall_not_mem.mpr fun e he => ?_
  have hsome : n.child? e.1 = some e.2 := Dict.get?_of_mem h.children he
  rw [(h.absent (memberAt_eq_none (Dict.get?_nil e.1))).1] at hsome
  cases hsome

/-- The children of a node have indices that follow one another. -/
def ChildrenInRow (a : Arena) (id : NodeId) : Prop :=
  ∃ first, (a.node id).links = List.range' first (a.node id).links.length

namespace Filled

variable {id : Nat} {r r' : Reading} {nodes : List (Step × Dict Value)}

/-- Only the nodes that have been appended have come to wait. -/
theorem idle (h : Filled id r r' nodes) {other : Nat} (hwait : other ∉ r.pending.map Prod.fst)
    (hout : other < r.arena.size ∨ r.arena.size + nodes.length ≤ other) :
    other ∉ r'.pending.map Prod.fst := by
  rw [h.pending, List.map_append, List.mem_append, mem_queued]
  rintro (⟨hle, hlt⟩ | hmem)
  · omega
  · exact hwait hmem

theorem hasChildren (h : Filled id r r' nodes) (hempty : (r.arena.node id).children = [])
    {a : Arena} (hkept : a.node id = r'.arena.node id) :
    a.HasChildren id (nodes.map Prod.fst) r.arena.size := by
  intro step child
  have hfree : r.arena.atStep id step = none := by
    rw [Arena.atStep, Node.child?, hempty]
    rfl
  have hstep := h.steps step child
  rw [hfree] at hstep
  rw [Arena.atStep, hkept]
  exact hstep.trans (or_iff_right (by simp))

/-- The children of the node are in a row, and so are those of the others that do not wait. -/
theorem childrenInRow (h : Filled id r r' nodes) (hempty : (r.arena.node id).children = [])
    (hall : ∀ other ∉ r.pending.map Prod.fst, other ≠ id → ChildrenInRow r.arena other)
    {other : Nat} (hwait : other ∉ r'.pending.map Prod.fst) : ChildrenInRow r'.arena other := by
  rw [h.pending, List.map_append, List.mem_append, mem_queued, not_or] at hwait
  obtain ⟨hnew, hwait⟩ := hwait
  by_cases hself : other = id
  · subst hself
    have hnone : (r.arena.node other).links = [] := by rw [Node.links, hempty, List.flatMap_nil]
    have hlinks : (r'.arena.node other).links = List.range' r.arena.size nodes.length := by
      rw [h.links, hnone, List.nil_append]
    exact ⟨r.arena.size, by rw [hlinks, List.length_range']⟩
  · rcases Nat.lt_or_ge other r.arena.size with hold | hge
    · rw [ChildrenInRow, h.others other hold hself]
      exact hall other hwait hself
    · have hbeyond : r'.arena.size ≤ other := by
        rw [h.size]
        omega
      rw [ChildrenInRow, Arena.node_of_le hbeyond]
      exact ⟨0, rfl⟩

end Filled

/-- What comes of the nodes on the stack: they and what is below them have been numbered one after
the other, and the other nodes stay as they are. -/
structure Completed (r : Reading) (a : Arena) : Prop where
  kept : ∀ id < r.arena.size, id ∉ r.pending.map Prod.fst → a.node id = r.arena.node id
  fits : QueueFits a r.pending r.arena.size
  size : a.size = indexAfterAll r.pending r.arena.size
  inRow : (∀ id ∉ r.pending.map Prod.fst, ChildrenInRow r.arena id) → ∀ id, ChildrenInRow a id

/-- If the children of a node are pushed on the stack, it comes to the same. -/
theorem Completed.of_filled {id : NodeId} {members : Dict Value} {r r' : Reading} {a : Arena}
    (hfilled : Filled id r r' (childNodes members)) (hid : id < r.arena.size)
    (hwait : id ∉ r.pending.map Prod.fst) (hempty : (r.arena.node id).children = [])
    (h : Completed r' a) : Completed ⟨r.arena, (id, members) :: r.pending⟩ a := by
  have hrow := Skeleton.ofMembers_eq members
  have hwidth : (Skeleton.ofMembers members).width = (childNodes members).length := by
    rw [hrow, Skeleton.width_ofChildren]
  obtain ⟨hlast, hqueue⟩ := queueFits_queued a (childNodes members) r.arena.size
    (r.arena.size + (childNodes members).length) r.pending
  have hkept : a.node id = r'.arena.node id :=
    h.kept id (hfilled.size ▸ Nat.lt_add_right _ hid) (hfilled.idle hwait (.inl hid))
  refine ⟨?_, ⟨?_, ?_⟩, ?_, ?_⟩
  · intro other hother hmem
    obtain ⟨hne, hmem⟩ := not_or.mp fun hor => hmem (List.mem_cons.mpr hor)
    rw [h.kept other (hfilled.size ▸ Nat.lt_add_right _ hother) (hfilled.idle hmem (.inl hother)),
      hfilled.others other hother hne]
  · rw [hrow, Skeleton.steps_ofChildren]
    exact hfilled.hasChildren hempty hkept
  · have hfits := h.fits
    rw [hfilled.pending, hfilled.size, hqueue] at hfits
    rw [indexAfter, hwidth, hrow]
    exact hfits
  · rw [h.size, hfilled.pending, hfilled.size, indexAfterAll, List.foldl_append]
    rw [indexAfterAll] at hlast
    rw [hlast, ← hrow, ← hwidth]
    rfl
  · intro hall
    refine h.inRow fun other hmem => hfilled.childrenInRow hempty (fun other hwait hne => ?_) hmem
    exact hall other fun hmem => (List.mem_cons.mp hmem).elim hne hwait

/-- **The stack amounts to the recursion.** When it is empty, the nodes that were on it, and what is
below them, have been numbered one after the other. -/
theorem finish_completed {doc : Value} (hdoc : doc.Normal) {src : List (Dict Value)} (r : Reading)
    (h : Sound doc src r.jobs r.arena) : Completed r r.finish := by
  induction r using Reading.finish.induct generalizing src with
  | case1 r hr =>
    rw [finish_of_nil hr]
    exact ⟨fun _ _ _ => rfl, by rw [hr]; trivial, by rw [hr]; rfl,
      fun hall id => hall id (hr ▸ List.not_mem_nil)⟩
  | case2 r id members rest hr ih =>
    rw [finish_of_cons hr]
    rw [Reading.jobs, hr] at h
    have hstart : Sound doc src (Reading.jobs ⟨r.arena, rest⟩ ++ [⟨id, [], members⟩]) r.arena :=
      h.rotate
    obtain ⟨hid, hholds⟩ := hstart.busy
    have hlt := h.lt_size hid
    have hempty := hholds.children_eq_nil
    have hsorted : members.Sorted :=
      ((h.within _ (List.mem_of_getElem? hid)).normal hdoc).sorted
    have hwait : id ∉ rest.map Prod.fst := by
      have hnodup := h.nodup
      rw [List.map_map] at hnodup
      exact (List.nodup_cons.mp hnodup).1
    have hfilled : Filled id ⟨r.arena, rest⟩ (fill id ⟨r.arena, rest⟩ members)
        (childNodes members) :=
      filled_fill (r := ⟨r.arena, rest⟩) hlt hsorted fun e he =>
        absurd (hempty ▸ he) List.not_mem_nil
    obtain ⟨src₁, -, hsound⟩ := hstart.fill hdoc
    have hcompleted := Completed.of_filled hfilled hlt hwait hempty (ih hsound.finished)
    have hpending : r = ⟨r.arena, (id, members) :: rest⟩ := hr ▸ rfl
    exact hpending ▸ hcompleted

end Reading

/-! ### Ways and indices -/

namespace Skeleton

theorem nil_notMem_number (row : Skeleton) (first next id : NodeId) :
    ([], id) ∉ (row.number first next).1 := by
  induction row generalizing first next with
  | nil => exact List.not_mem_nil
  | child step below rest _ ih =>
    intro hmem
    rcases List.mem_append.mp hmem with hmem | hmem
    · rcases List.mem_cons.mp hmem with heq | hmem
      · cases heq
      · obtain ⟨e, -, heq⟩ := List.mem_map.mp hmem
        cases heq
    · exact ih _ _ hmem

/-- A node is followed by the way to itself, or by the ways that are numbered below it. -/
theorem follow_iff {a : Arena} {id first next : NodeId} {row : Skeleton}
    (hchildren : a.HasChildren id row.steps first)
    (hrow : ∀ step way target, (step :: way, target) ∈ (row.number first next).1 ↔
      ∃ child, (step, child) ∈ row.steps.zipIdx first ∧ a.follow child way = some target)
    (way : List Step) (target : NodeId) :
    a.follow id way = some target ↔
      way = [] ∧ target = id ∨ (way, target) ∈ (row.number first next).1 := by
  cases way with
  | nil =>
    rw [Arena.follow, Option.some.injEq, or_iff_left (nil_notMem_number row first next target)]
    exact ⟨fun h => ⟨rfl, h.symm⟩, fun h => h.2.symm⟩
  | cons step way =>
    rw [Arena.follow, Option.bind_eq_some_iff, hrow]
    constructor
    · rintro ⟨child, hchild, hway⟩
      exact .inr ⟨child, (hchildren step child).mp hchild, hway⟩
    · rintro (⟨hnil, -⟩ | ⟨child, hchild, hway⟩)
      · cases hnil
      · exact ⟨child, (hchildren step child).mpr hchild, hway⟩

/-- The ways that are numbered below a row lead to the nodes with these indices. -/
theorem Fits.mem_number_iff {a : Arena} {row : Skeleton} {first next : NodeId}
    (h : row.Fits a first next) (step : Step) (way : List Step) (target : NodeId) :
    (step :: way, target) ∈ (row.number first next).1 ↔
      ∃ child, (step, child) ∈ row.steps.zipIdx first ∧ a.follow child way = some target := by
  induction row generalizing first next step way target with
  | nil => simp [number, steps]
  | child step' below rest ihbelow ihrest =>
    obtain ⟨hrest, hchildren, hbelow⟩ := h
    have hinner := follow_iff hchildren fun step way target => ihbelow hbelow step way target
    rw [number, List.mem_append, ihrest hrest, List.mem_cons, List.mem_map, steps,
      List.zipIdx_cons]
    constructor
    · rintro ((heq | ⟨e, he, heq⟩) | ⟨child, hchild, hway⟩)
      · cases heq
        exact ⟨first, List.mem_cons_self, rfl⟩
      · cases heq
        exact ⟨first, List.mem_cons_self, (hinner _ _).mpr (.inr he)⟩
      · exact ⟨child, List.mem_cons_of_mem _ hchild, hway⟩
    · rintro ⟨child, hchild, hway⟩
      rcases List.mem_cons.mp hchild with heq | hchild
      · cases heq
        rcases (hinner _ _).mp hway with ⟨rfl, rfl⟩ | hmem
        · exact .inl (.inl rfl)
        · exact .inl (.inr ⟨_, hmem, rfl⟩)
      · exact .inr ⟨child, hchild, hway⟩

end Skeleton

namespace Reading

theorem members_of_places {src : List (Dict Value)} {owner : NodeId}
    {items : List (Option (Dict Value))} {ids : List (Option NodeId)}
    (h : List.Forall₂ (PlaceKept src owner) items ids) {i : Nat} {id : NodeId}
    (hid : ids[i]? = some (some id)) :
    ∃ members, items[i]? = some (some members) ∧ src[id]? = some members := by
  induction h generalizing i with
  | nil => cases hid
  | cons hplace _ ih =>
    cases i with
    | zero =>
      obtain rfl := Option.some.inj hid
      cases hplace with
      | node _ hget => exact ⟨_, rfl, hget⟩
    | succ i => exact ih hid

/-- A step in the arena leads to the node that it leads to in the document. -/
theorem Sound.memberAtStep {doc : Value} {src : List (Dict Value)} {a : Arena}
    (h : Sound doc src [] a) {id : NodeId} {members : Dict Value} (hid : src[id]? = some members)
    {step : Step} {child : NodeId} (hstep : a.atStep id step = some child) :
    ∃ ms, memberAtStep members step = some ms ∧ src[child]? = some ms := by
  obtain ⟨c, hc, hat⟩ := Option.bind_eq_some_iff.mp hstep
  have hkept := (h.complete id members hid List.not_mem_nil).kept step.field
  rw [hc] at hkept
  unfold Estree.memberAtStep
  generalize memberAt members step.field = m, (a.node id).prop? step.field = p,
    step.place = place at *
  cases hkept with
  | node hplace =>
    cases hplace with
    | node _ hget =>
      cases place with
      | none =>
        obtain rfl := Option.some.inj hat
        exact ⟨_, rfl, hget⟩
      | some i => cases hat
  | list hplaces =>
    cases place with
    | none => cases hat
    | some i =>
      obtain ⟨ms, hms, hget⟩ := members_of_places hplaces (Option.join_eq_some_iff.mp hat)
      exact ⟨ms, Option.join_eq_some_iff.mpr hms, hget⟩

/-- A way in the arena leads to the node that it leads to in the document. -/
theorem Sound.followMembers {doc : Value} {src : List (Dict Value)} {a : Arena}
    (h : Sound doc src [] a) {id : NodeId} {members : Dict Value} (hid : src[id]? = some members)
    {way : List Step} {target : NodeId} (hway : a.follow id way = some target) :
    ∃ ms, followMembers members way = some ms ∧ src[target]? = some ms := by
  induction way generalizing id members with
  | nil =>
    obtain rfl := Option.some.inj hway
    exact ⟨members, rfl, hid⟩
  | cons step way ih =>
    obtain ⟨child, hchild, hrest⟩ := Option.bind_eq_some_iff.mp hway
    obtain ⟨ms, hms, hget⟩ := h.memberAtStep hid hchild
    obtain ⟨target', htarget, hget'⟩ := ih hget hrest
    exact ⟨target', Option.bind_eq_some_iff.mpr ⟨ms, hms, htarget⟩, hget'⟩

end Reading

/-! ### The arena of a document -/

open Reading

/-- What comes of the root of a document. -/
theorem completed_of_ofValue? {doc : Value} (hdoc : doc.Normal) {members : Dict Value}
    (hm : nodeMembers? doc = some members) :
    Completed (Reading.append ⟨Arena.empty, []⟩ members) (Arena.ofMembers members) := by
  have hroot : Sound doc [members] (Reading.append ⟨Arena.empty, []⟩ members).jobs
      (Reading.append ⟨Arena.empty, []⟩ members).arena := Sound.nil.add (.root hm)
  exact finish_completed hdoc _ hroot

/-- The nodes of a document have the indices that the recursion gives them. -/
theorem follow_root_iff {doc : Value} (hdoc : doc.Normal) {members : Dict Value}
    (hm : nodeMembers? doc = some members) (way : List Step) (id : NodeId) :
    (Arena.ofMembers members).follow Arena.root way = some id ↔
      (way, id) ∈ (Skeleton.ofMembers members).numbering := by
  obtain ⟨hchildren, hfits, -⟩ := (completed_of_ofValue? hdoc hm).fits
  have hfollow := Skeleton.follow_iff hchildren hfits.mem_number_iff way id
  rw [Skeleton.numbering, List.mem_cons, Prod.mk.injEq]
  exact hfollow

/-- All indices of the arena are given, each once. -/
theorem numbering_perm {doc : Value} (hdoc : doc.Normal) {members : Dict Value}
    (hm : nodeMembers? doc = some members) :
    ((Skeleton.ofMembers members).numbering.map Prod.snd).Perm
      (List.range (Arena.ofMembers members).size) := by
  have hsize : (Arena.ofMembers members).size =
      ((Skeleton.ofMembers members).number 1 (1 + (Skeleton.ofMembers members).width)).2 :=
    (completed_of_ofValue? hdoc hm).size
  obtain ⟨more, hend, hids⟩ := (Skeleton.ofMembers members).number_ids 1
    (1 + (Skeleton.ofMembers members).width)
  rw [hsize, hend, List.range_eq_range', Nat.add_assoc, Nat.add_comm 1, List.range'_succ,
    ← List.range'_append_1]
  exact hids.cons 0

/-- **How the nodes of a document are numbered.** The indices are those that the recursion gives:
the way to a node leads to the node with its index, which is the node that the way leads to in the
document, and all indices of the arena are given. In particular the children of a node have indices
that follow one another, and in the arena of a document with the same skeleton all ways lead to the
same indices. -/
theorem document_numbered {doc : Value} (hdoc : doc.Normal) {a : Arena}
    (h : Arena.ofValue? doc = some a) :
    ∃ members, nodeMembers? doc = some members ∧
      (∀ way id, a.follow Arena.root way = some id ↔
        (way, id) ∈ (Skeleton.ofMembers members).numbering) ∧
      ((Skeleton.ofMembers members).numbering.map Prod.snd).Perm (List.range a.size) ∧
      (∀ way id, a.follow Arena.root way = some id →
        ∃ node, followMembers members way = some node ∧ a.rebuild id = .object node) ∧
      (∀ id, ChildrenInRow a id) ∧
      ∀ other b ms, other.Normal → Arena.ofValue? other = some b → nodeMembers? other = some ms →
        Skeleton.ofMembers ms = Skeleton.ofMembers members →
          b.size = a.size ∧ ∀ way, b.follow Arena.root way = a.follow Arena.root way := by
  obtain ⟨src, members, hsound, hm, hget⟩ := sound_of_ofValue? hdoc h
  obtain rfl : Arena.ofMembers members = a := by
    rw [Arena.ofValue?, hm] at h
    exact Option.some.inj h
  refine ⟨members, hm, follow_root_iff hdoc hm, numbering_perm hdoc hm, ?_, ?_, ?_⟩
  · intro way id hway
    obtain ⟨node, hnode, hid⟩ := hsound.followMembers hget hway
    exact ⟨node, hnode, hsound.rebuildUpTo hdoc hid (Nat.le_add_right _ _)⟩
  · refine (completed_of_ofValue? hdoc hm).inRow fun id hid => ?_
    have hne : id ≠ Arena.root := fun heq => hid (List.mem_singleton.mpr heq)
    have hnode : (Reading.append ⟨Arena.empty, []⟩ members).arena.node id =
        Arena.empty.node id := Arena.node_push_of_ne hne
    rw [ChildrenInRow, hnode]
    exact ⟨0, rfl⟩
  · intro other b ms hother hb hms hsame
    obtain rfl : Arena.ofMembers ms = b := by
      rw [Arena.ofValue?, hms] at hb
      exact Option.some.inj hb
    constructor
    · have hperm := numbering_perm hother hms
      rw [hsame] at hperm
      simpa using (hperm.symm.trans (numbering_perm hdoc hm)).length_eq
    · intro way
      refine Option.ext fun id => ?_
      rw [follow_root_iff hother hms, follow_root_iff hdoc hm, hsame]

/-- Two nodes with a child each; one of the children is in a list behind a hole. -/
def forkedDocument : Value :=
  .object [
    ("left", .object [("argument", .object [("type", .string "Super")]), ("type", .string "A")]),
    ("right", .object [("elements", .array [.null, .object [("type", .string "Super")]]),
      ("type", .string "B")]),
    ("type", .string "C")]

/-- The node below `right` comes before the one below `left`. -/
theorem forkedDocument_numbered :
    forkedDocument.Normal ∧ ∃ a, Arena.ofValue? forkedDocument = some a ∧
      a.follow Arena.root [⟨"left", none⟩] = some 1 ∧
      a.follow Arena.root [⟨"right", none⟩] = some 2 ∧
      a.follow Arena.root [⟨"right", none⟩, ⟨"elements", some 1⟩] = some 3 ∧
      a.follow Arena.root [⟨"left", none⟩, ⟨"argument", none⟩] = some 4 := by
  have hleaf : (Value.object [("type", .string "Super")]).Normal :=
    .object (List.pairwise_singleton _ _) (List.forall_mem_singleton.mpr (.string _))
  have hleft : (Value.object [("argument", .object [("type", .string "Super")]),
      ("type", .string "A")]).Normal := by
    refine .object ?_ (List.forall_mem_cons.mpr ⟨hleaf, List.forall_mem_singleton.mpr (.string _)⟩)
    unfold Dict.Sorted
    decide
  have hright : (Value.object [("elements", .array [.null, .object [("type", .string "Super")]]),
      ("type", .string "B")]).Normal := by
    refine .object ?_ (List.forall_mem_cons.mpr ⟨.array ?_,
      List.forall_mem_singleton.mpr (.string _)⟩)
    · unfold Dict.Sorted
      decide
    · exact List.forall_mem_cons.mpr ⟨.null, List.forall_mem_singleton.mpr hleaf⟩
  have hdoc : forkedDocument.Normal := by
    refine .object ?_ (List.forall_mem_cons.mpr ⟨hleft, List.forall_mem_cons.mpr ⟨hright,
      List.forall_mem_singleton.mpr (.string _)⟩⟩)
    unfold Dict.Sorted
    decide
  obtain ⟨a, ha⟩ : ∃ a, Arena.ofValue? forkedDocument = some a := ⟨_, rfl⟩
  obtain ⟨members, hm, hfollow, -⟩ := document_numbered hdoc ha
  have hnumbering : (Skeleton.ofMembers members).numbering =
      [([], 0), ([⟨"left", none⟩], 1), ([⟨"left", none⟩, ⟨"argument", none⟩], 4),
        ([⟨"right", none⟩], 2), ([⟨"right", none⟩, ⟨"elements", some 1⟩], 3)] := by
    obtain rfl := Option.some.inj hm
    decide +kernel
  refine ⟨hdoc, a, ha, ?_⟩
  simp [hfollow, hnumbering]

end Estree
