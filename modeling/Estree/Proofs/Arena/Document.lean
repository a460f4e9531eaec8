import Estree.Arena.Reading
import Estree.Proofs.Dict
import Mathlib.Data.List.Forall2

/-!
# Documents and their nodes

A document is a value, and its nodes are those objects that can be reached from it as members of
nodes. `memberAt` says what a node has under a key and `NodeWithin` which nodes a document has.

An object is a map in which each key is listed once, in the order of the keys. `Normal` says so of
every object in a value; the values that are read from a text are like that.

* `Member.toValue_ofValue`: telling nodes, node lists and other values apart loses nothing;
* `NodeWithin.isNode`, `NodeWithin.normal`: every node of a document has a tag, and is normal if the
  document is.
-/

namespace Estree

open Json (Value)

/-! ### Documents -/

/-- Every object of a value lists its members by key, each once. -/
inductive Json.Value.Normal : Value → Prop
  | null : Normal .null
  | bool (b : Bool) : Normal (.bool b)
  | int (n : Int) : Normal (.int n)
  | float (x : Float) : Normal (.float x)
  | string (s : String) : Normal (.string s)
  | array {items : List Value} (h : ∀ v ∈ items, Normal v) : Normal (.array items)
  | object {members : Dict Value} (hs : members.Sorted) (h : ∀ m ∈ members, Normal m.2) :
    Normal (.object members)

/-- What a node keeps under a key; its tag is not kept. -/
def memberAt (members : Dict Value) (key : String) : Option Member :=
  if key = "type" then none else (members.get? key).map Member.ofValue

/-- The document has a node with these members. -/
inductive NodeWithin (doc : Value) : Dict Value → Prop
  /-- The root. -/
  | root {members : Dict Value} (h : nodeMembers? doc = some members) : NodeWithin doc members
  /-- The node that is a member of a node. -/
  | node {members child : Dict Value} {key : String} (h : NodeWithin doc members)
    (hm : memberAt members key = some (.node child)) : NodeWithin doc child
  /-- A node in a list that is a member of a node. -/
  | item {members child : Dict Value} {key : String} {items : List (Option (Dict Value))}
    (h : NodeWithin doc members) (hm : memberAt members key = some (.list items))
    (hc : some child ∈ items) : NodeWithin doc child

theorem object_of_nodeMembers? {v : Value} {members : Dict Value}
    (h : nodeMembers? v = some members) : v = .object members := by
  obtain ⟨hv, -⟩ := Option.filter_eq_some_iff.mp h
  cases v with
  | object ms => exact congrArg Value.object (Option.some.inj hv)
  | _ => cases hv

/-- The tag of a node is a text. -/
theorem tag_of_nodeMembers? {v : Value} {members : Dict Value}
    (h : nodeMembers? v = some members) : ∃ tag, members.get? "type" = some (.string tag) := by
  obtain ⟨-, htag⟩ := Option.filter_eq_some_iff.mp h
  obtain ⟨tag, htag⟩ := Option.isSome_iff_exists.mp htag
  obtain ⟨w, hw, hs⟩ := Option.bind_eq_some_iff.mp htag
  cases w with
  | string s => exact ⟨s, hw⟩
  | _ => cases hs

theorem nodeMembers?_object {v : Value} {members : Dict Value}
    (h : nodeMembers? v = some members) : nodeMembers? (.object members) = some members :=
  object_of_nodeMembers? h ▸ h

/-! ### Members and their values -/

/-- What a value is as an item of a node list. -/
inductive ItemOf : Value → Option (Dict Value) → Prop
  | hole : ItemOf .null none
  | node {v : Value} {members : Dict Value} (h : nodeMembers? v = some members) :
    ItemOf v (some members)

theorem itemOf_of_nodeList? {vs : List Value} {items : List (Option (Dict Value))}
    (h : nodeList? vs = some items) : List.Forall₂ ItemOf vs items := by
  induction vs generalizing items with
  | nil =>
    obtain rfl := Option.some.inj h
    exact .nil
  | cons v vs ih =>
    unfold nodeList? at h
    split at h
    · next ms hms =>
      obtain ⟨tail, ht, rfl⟩ := Option.map_eq_some_iff.mp h
      exact .cons (.node hms) (ih ht)
    · obtain ⟨tail, ht, rfl⟩ := Option.map_eq_some_iff.mp h
      exact .cons .hole (ih ht)
    · cases h

/-- The nodes of a node list are nodes. -/
theorem nodeMembers?_of_mem {vs : List Value} {items : List (Option (Dict Value))}
    (h : List.Forall₂ ItemOf vs items) {members : Dict Value} (hm : some members ∈ items) :
    nodeMembers? (.object members) = some members := by
  induction h with
  | nil => cases hm
  | cons h _ ih =>
    rcases List.mem_cons.mp hm with rfl | hm
    · cases h with
      | node h => exact nodeMembers?_object h
    · exact ih hm

/-- The value that a member is read from. -/
def Member.toValue : Member → Value
  | node members => .object members
  | list items => .array (items.map fun item => (item.map Value.object).getD .null)
  | prop v => v

theorem map_toValue_items {vs : List Value} {items : List (Option (Dict Value))}
    (h : List.Forall₂ ItemOf vs items) :
    items.map (fun item => (item.map Value.object).getD .null) = vs := by
  induction h with
  | nil => rfl
  | cons h _ ih =>
    rw [List.map_cons, ih]
    cases h with
    | hole => rfl
    | node h => rw [object_of_nodeMembers? h]; rfl

/-- **Telling nodes, node lists and other values apart loses nothing.** -/
theorem Member.toValue_ofValue (v : Value) : (ofValue v).toValue = v := by
  unfold ofValue
  split
  · next members h => exact (object_of_nodeMembers? h).symm
  · split
    · next items h =>
      obtain ⟨vs, hv, hi⟩ := Option.bind_eq_some_iff.mp h
      cases v with
      | array ws =>
        obtain rfl := Option.some.inj hv
        exact congrArg Value.array (map_toValue_items (itemOf_of_nodeList? hi))
      | _ => cases hv
    · rfl

theorem nodeMembers?_of_ofValue {v : Value} {members : Dict Value}
    (h : Member.ofValue v = .node members ∨
      ∃ items, Member.ofValue v = .list items ∧ some members ∈ items) :
    nodeMembers? (.object members) = some members := by
  unfold Member.ofValue at h
  split at h
  · next ms hms =>
    obtain h | ⟨items, h, -⟩ := h
    · cases h
      exact nodeMembers?_object hms
    · cases h
  · split at h
    · next items' hi =>
      obtain h | ⟨items, h, hm⟩ := h
      · cases h
      · cases h
        obtain ⟨vs, -, hvs⟩ := Option.bind_eq_some_iff.mp hi
        exact nodeMembers?_of_mem (itemOf_of_nodeList? hvs) hm
    · obtain h | ⟨items, h, -⟩ := h <;> cases h

theorem ofValue_of_memberAt {members : Dict Value} {key : String} {m : Member}
    (h : memberAt members key = some m) :
    key ≠ "type" ∧ ∃ v, members.get? key = some v ∧ Member.ofValue v = m := by
  unfold memberAt at h
  split at h
  · cases h
  · next hkey => exact ⟨hkey, Option.map_eq_some_iff.mp h⟩

/-! ### The nodes of a document -/

theorem NodeWithin.isNode {doc : Value} {members : Dict Value} (h : NodeWithin doc members) :
    nodeMembers? (.object members) = some members := by
  cases h with
  | root h => exact nodeMembers?_object h
  | node _ hm =>
    obtain ⟨-, v, -, hv⟩ := ofValue_of_memberAt hm
    exact nodeMembers?_of_ofValue (Or.inl hv)
  | item _ hm hc =>
    obtain ⟨-, v, -, hv⟩ := ofValue_of_memberAt hm
    exact nodeMembers?_of_ofValue (Or.inr ⟨_, hv, hc⟩)

/-- What is found in a normal object is normal. -/
theorem Json.Value.Normal.get? {members : Dict Value} (h : (Value.object members).Normal)
    {key : String} {v : Value} (hv : members.get? key = some v) : v.Normal := by
  cases h with
  | object _ h => exact h _ (Dict.mem_of_get? hv)

theorem Json.Value.Normal.sorted {members : Dict Value} (h : (Value.object members).Normal) :
    members.Sorted := by
  cases h with
  | object hs _ => exact hs

/-- The nodes of a normal document are normal. -/
theorem NodeWithin.normal {doc : Value} (hdoc : doc.Normal) {members : Dict Value}
    (h : NodeWithin doc members) : (Value.object members).Normal := by
  induction h with
  | root h => exact object_of_nodeMembers? h ▸ hdoc
  | node _ hm ih =>
    obtain ⟨-, v, hv, hmem⟩ := ofValue_of_memberAt hm
    have hnormal : v.Normal := ih.get? hv
    rw [← Member.toValue_ofValue v, hmem] at hnormal
    exact hnormal
  | @item _ child _ items _ hm hc ih =>
    obtain ⟨-, v, hv, hmem⟩ := ofValue_of_memberAt hm
    have hnormal : v.Normal := ih.get? hv
    rw [← Member.toValue_ofValue v, hmem] at hnormal
    cases hnormal with
    | array hitems => exact hitems (.object child) (List.mem_map.mpr ⟨some child, hc, rfl⟩)

end Estree
