import Estree.Arena
import Estree.Error
import Estree.Json.Parser

/-!
# Reading documents

A document is a JSON value whose objects with a text member `type` are nodes. A member of a node
that is itself a node, or a list of nodes and `null`s, holds children; any other member is kept as
it is, even if nodes are buried in it.

Nodes are numbered as they are met. The nodes whose members have not been looked at yet are kept on
a stack, so the children of one node get consecutive numbers, and the children of the last of them
come next.

## Main definitions

* `Member.ofValue`: what a member holds;
* `Arena.ofValue?`: the arena of a document, whose root is node 0.
-/

namespace Estree

open Json (Value)

/-- The members of a value that is a node. -/
def nodeMembers? (v : Value) : Option (Dict Value) :=
  v.members?.filter fun members => ((members.get? "type").bind Value.text?).isSome

/-- The kind of a node with the given members. -/
def kindOfMembers (members : Dict Value) : Kind :=
  Kind.ofName (((members.get? "type").bind Value.text?).getD "")

/-- What a member of a node holds. -/
inductive Member where
  /-- A node, given by its members. -/
  | node (members : Dict Value)
  /-- A list of nodes and empty places. -/
  | list (items : List (Option (Dict Value)))
  /-- Anything else. -/
  | prop (value : Value)

/-- The items of a list of nodes and `null`s; `none` for any other list. -/
def nodeList? : List Value → Option (List (Option (Dict Value)))
  | [] => some []
  | v :: rest =>
    match nodeMembers? v, v with
    | some members, _ => (nodeList? rest).map (some members :: ·)
    | none, .null => (nodeList? rest).map (none :: ·)
    | none, _ => none

/-- What the value of a member is to its node. -/
def Member.ofValue (v : Value) : Member :=
  match nodeMembers? v with
  | some members => .node members
  | none =>
    match v.items?.bind nodeList? with
    | some items => .list items
    | none => .prop v

/-- An arena under construction. -/
structure Reading where
  /-- The nodes so far. -/
  arena : Arena
  /-- The nodes whose members have not been looked at, the latest first. -/
  pending : List (NodeId × Dict Value)

namespace Reading

/-- Append a node with the given members, which are to be looked at later. -/
def append (r : Reading) (members : Dict Value) : Reading :=
  let id := r.arena.size
  { arena := r.arena.add (kindOfMembers members)
    pending := (id, members) :: r.pending }

/-- Append the nodes of a list. -/
def appendList (r : Reading) : List (Option (Dict Value)) → Reading
  | [] => r
  | none :: rest => appendList r rest
  | some members :: rest => appendList (r.append members) rest

/-- The indices that the nodes of a list get when they are appended and `next` is the first free
index. -/
def placeIds (next : NodeId) : List (Option (Dict Value)) → List (Option NodeId)
  | [] => []
  | none :: rest => none :: placeIds next rest
  | some _ :: rest => some next :: placeIds (next + 1) rest

/-- Change the arena. -/
def mapArena (r : Reading) (f : Arena → Arena) : Reading :=
  let pending := r.pending
  ⟨f r.arena, pending⟩

/-- Store one member of node `id`. -/
def store (id : NodeId) (r : Reading) (key : String) : Member → Reading
  | .node members =>
    let child := r.arena.size
    (r.append members).mapArena (·.setChild id key (.node child))
  | .list items =>
    let ids := placeIds r.arena.size items
    (r.appendList items).mapArena (·.setChild id key (.list ids))
  | .prop value => r.mapArena (·.setProp id key value)

/-- Store the members of node `id`, but for its tag. -/
def fill (id : NodeId) (r : Reading) : Dict Value → Reading
  | [] => r
  | (key, v) :: rest =>
    fill id (if key = "type" then r else r.store id key (Member.ofValue v)) rest

/-! ### The stack gets smaller -/

/-- The size of what is still to be looked at. -/
noncomputable def weight (r : Reading) : Nat := r.pending.foldr (fun p n => sizeOf p.2 + n) 0

/-- The size of the nodes in a list of places. -/
noncomputable def itemsWeight (items : List (Option (Dict Value))) : Nat :=
  items.foldr (fun item n => (item.map sizeOf).getD 0 + n) 0

/-- The size of the nodes that a member holds. -/
noncomputable def memberWeight : Member → Nat
  | .node members => sizeOf members
  | .list items => itemsWeight items
  | .prop _ => 0

theorem sizeOf_nodeMembers? {v : Value} {members : Dict Value} (h : nodeMembers? v = some members) :
    sizeOf members < sizeOf v := by
  unfold nodeMembers? at h
  obtain ⟨h, -⟩ := Option.filter_eq_some_iff.1 h
  cases v <;> simp [Value.members?] at h
  subst h
  simp

theorem itemsWeight_nodeList? {vs : List Value} {items : List (Option (Dict Value))}
    (h : nodeList? vs = some items) : itemsWeight items ≤ sizeOf vs := by
  induction vs generalizing items with
  | nil => simp [nodeList?] at h; subst h; simp [itemsWeight]
  | cons v rest ih =>
    unfold nodeList? at h
    split at h
    · next members hm =>
      obtain ⟨tail, ht, rfl⟩ := Option.map_eq_some_iff.1 h
      have := ih ht
      have := sizeOf_nodeMembers? hm
      simp only [itemsWeight, List.foldr_cons, Option.map_some, Option.getD_some,
        List.cons.sizeOf_spec] at *
      omega
    · obtain ⟨tail, ht, rfl⟩ := Option.map_eq_some_iff.1 h
      have := ih ht
      simp only [itemsWeight, List.foldr_cons, Option.map_none, Option.getD_none,
        List.cons.sizeOf_spec] at *
      omega
    · simp at h

theorem memberWeight_ofValue (v : Value) : memberWeight (Member.ofValue v) < sizeOf v := by
  unfold Member.ofValue
  split
  · next members h => exact sizeOf_nodeMembers? h
  · split
    · next items h =>
      obtain ⟨vs, hv, hi⟩ := Option.bind_eq_some_iff.1 h
      have := itemsWeight_nodeList? hi
      cases v <;> simp [Value.items?] at hv
      subst hv
      simp only [memberWeight, Value.array.sizeOf_spec]
      omega
    · have : 0 < sizeOf v := by
        cases v <;> simp only [Value.null.sizeOf_spec, Value.bool.sizeOf_spec,
          Value.int.sizeOf_spec, Value.float.sizeOf_spec, Value.string.sizeOf_spec,
          Value.array.sizeOf_spec, Value.object.sizeOf_spec] <;> omega
      simpa only [memberWeight] using this

theorem weight_appendList (r : Reading) (items : List (Option (Dict Value))) :
    (r.appendList items).weight = itemsWeight items + r.weight := by
  induction items generalizing r with
  | nil => simp [appendList, itemsWeight]
  | cons item rest ih =>
    cases item with
    | none => simp [appendList, ih, itemsWeight]
    | some members =>
      simp only [appendList, ih]
      simp [itemsWeight, weight, append]
      omega

theorem weight_store (id : NodeId) (r : Reading) (key : String) (m : Member) :
    (r.store id key m).weight = memberWeight m + r.weight := by
  cases m with
  | node members => simp [store, weight, append, mapArena, memberWeight]
  | list items =>
    have := weight_appendList r items
    simpa [store, weight, mapArena, memberWeight] using this
  | prop value => simp [store, weight, mapArena, memberWeight]

theorem weight_fill (id : NodeId) (r : Reading) (members : Dict Value) :
    (r.fill id members).weight < sizeOf members + r.weight := by
  induction members generalizing r with
  | nil => simp [fill]
  | cons m rest ih =>
    obtain ⟨key, v⟩ := m
    unfold fill
    split
    · have := ih r
      simp only [List.cons.sizeOf_spec, Prod.mk.sizeOf_spec]
      omega
    · have := ih (r.store id key (Member.ofValue v))
      have := weight_store id r key (Member.ofValue v)
      have := memberWeight_ofValue v
      simp only [List.cons.sizeOf_spec, Prod.mk.sizeOf_spec]
      omega

/-- Look at the members of all pending nodes, the latest first. -/
def finish (r : Reading) : Arena :=
  match _h : r.pending with
  | [] => r.arena
  | (id, members) :: rest => finish (fill id ⟨r.arena, rest⟩ members)
termination_by r.weight
decreasing_by
  have := weight_fill id ⟨r.arena, rest⟩ members
  simp only [weight, _h, List.foldr_cons] at *
  omega

end Reading

namespace Arena

/-- The arena of a document whose root has the given members. -/
def ofMembers (members : Dict Value) : Arena :=
  (Reading.append ⟨empty, []⟩ members).finish

/-- The arena of a document, with its root at index 0; `none` if the value is no node. -/
def ofValue? (v : Value) : Option Arena := (nodeMembers? v).map ofMembers

/-- The index of a document's root. -/
def root : NodeId := 0

/-- The arena of a document given as text. -/
def ofText (text : String) : Except Error Arena :=
  match Json.parse text with
  | .error e => .error (.invalidJson "<input>" e)
  | .ok v =>
    match ofValue? v with
    | none => .error (.rootNotNode none)
    | some a => .ok a

end Arena

end Estree
