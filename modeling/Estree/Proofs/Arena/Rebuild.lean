import Estree.Proofs.Arena.Loading

/-!
# Documents written back

An arena says the same as the document it was read from. `Arena.rebuild` writes a node as an object
again: its tag, its children, each written in the same way, and its other members as they are. Read
from a document and written back, the root is the document (`rebuild_eq_document`).

In between, the members of a node stand in two places, those with children apart from the others.
`Node.Splits` says that no member is lost there and none is in both.
-/

namespace Estree

open Json (Value)

/-! ### Writing -/

/-- What a field with children holds, with its nodes written by `f`. -/
def Child.toValue (f : NodeId → Value) : Child → Value
  | node id => f id
  | list items => .array (items.map fun item => (item.map f).getD .null)

/-- A node as an object, with its children written by `f`. -/
def Node.toValue (f : NodeId → Value) (n : Node) : Value :=
  .object (Dict.ofList (("type", .string n.kind.name) ::
    (n.children.map (fun e => (e.1, e.2.toValue f)) ++ n.props)))

/-- A node of an arena as an object, with what lies `limit` or more levels below it left out. -/
def Arena.rebuildUpTo (a : Arena) : Nat → NodeId → Value
  | 0, _ => .null
  | limit + 1, id => (a.node id).toValue (a.rebuildUpTo limit)

/-- A node of an arena as an object. Where no node lies below itself there are fewer levels than
nodes, so nothing is left out. -/
def Arena.rebuild (a : Arena) (id : NodeId) : Value := a.rebuildUpTo a.size id

/-- The node keeps the members of an object and nothing else: the tag apart, each either as children
or as a value. -/
def Node.Splits (n : Node) (members : Dict Value) : Prop :=
  n.child? "type" = none ∧ n.prop? "type" = none ∧
  (∀ key, ¬ ((n.child? key).isSome ∧ (n.prop? key).isSome)) ∧
  ∀ key, key ≠ "type" →
    ((members.get? key).isSome ↔ (n.child? key).isSome ∨ (n.prop? key).isSome)

/-! ### What is kept is written back -/

theorem Kind.name_ofName (tag : String) : (ofName tag).name = tag := by
  unfold ofName
  cases h : known.find? (·.name == tag) with
  | none => rfl
  | some kind => simpa using List.find?_some h

theorem kindOfMembers_name {members : Dict Value} {tag : String}
    (h : members.get? "type" = some (.string tag)) : (kindOfMembers members).name = tag := by
  rw [kindOfMembers, h]
  exact Kind.name_ofName tag

namespace Reading

variable {src : List (Dict Value)} {owner : NodeId} {f : NodeId → Value}

theorem PlaceKept.toValue {item : Option (Dict Value)} {place : Option NodeId}
    (h : PlaceKept src owner item place)
    (hf : ∀ id members, owner < id → src[id]? = some members → f id = .object members) :
    (place.map f).getD .null = (item.map Value.object).getD .null := by
  cases h with
  | hole => rfl
  | node hlt hid => exact hf _ _ hlt hid

theorem Kept.toValue {m : Option Member} {c : Option Child} {p : Option Value}
    (h : Kept src owner m c p)
    (hf : ∀ id members, owner < id → src[id]? = some members → f id = .object members) :
    p.or (c.map (Child.toValue f)) = m.map Member.toValue := by
  cases h with
  | absent => rfl
  | node h => exact congrArg some (h.toValue hf)
  | list h =>
    refine congrArg (fun vs => some (Value.array vs)) ?_
    induction h with
    | nil => rfl
    | cons h _ ih => rw [List.map_cons, List.map_cons, ih, h.toValue hf]
  | prop v => rfl

/-- A node that keeps the members of an object is written as that object. -/
theorem Holds.toValue {n : Node} {members : Dict Value} (h : Holds src owner n members)
    (hkind : n.kind = kindOfMembers members) (hsorted : members.Sorted)
    (hnode : nodeMembers? (.object members) = some members)
    (hf : ∀ id members, owner < id → src[id]? = some members → f id = .object members) :
    n.toValue f = .object members := by
  refine congrArg Value.object (Dict.ext_of_sorted (Dict.sorted_ofList _) hsorted fun key => ?_)
  rw [Dict.get?_ofList, List.reverse_cons, List.reverse_append, Dict.get?_append, Dict.get?_append,
    Dict.get?_reverse h.props, Dict.get?_reverse (Dict.sorted_mapValues h.children _),
    Dict.get?_mapValues]
  have hkept := (h.kept key).toValue hf
  unfold Node.child? Node.prop? at hkept
  rw [hkept, memberAt]
  by_cases hkey : key = "type"
  · subst hkey
    obtain ⟨tag, htag⟩ := tag_of_nodeMembers? hnode
    rw [if_pos rfl, htag, hkind, kindOfMembers_name htag]
    rfl
  · rw [if_neg hkey, Dict.get?_cons, if_neg (Ne.symm hkey), Dict.get?_nil, Option.or_none,
      Option.map_map]
    have hid : Member.toValue ∘ Member.ofValue = id := funext Member.toValue_ofValue
    rw [hid, Option.map_id, id]

theorem Holds.splits {n : Node} {members : Dict Value} (h : Holds src owner n members) :
    n.Splits members := by
  obtain ⟨hchild, hprop⟩ : n.child? "type" = none ∧ n.prop? "type" = none :=
    h.absent (if_pos rfl)
  refine ⟨hchild, hprop, fun key => ?_, fun key hkey => ?_⟩
  · have hkept := h.kept key
    rintro ⟨hc, hp⟩
    generalize memberAt members key = m, n.child? key = c, n.prop? key = p at hkept hc hp
    cases hkept <;> cases hc <;> cases hp
  · have hkept := h.kept key
    rw [memberAt, if_neg hkey] at hkept
    have hsome : (members.get? key).isSome = ((members.get? key).map Member.ofValue).isSome :=
      Option.isSome_map.symm
    rw [hsome]
    generalize n.child? key = c, n.prop? key = p, (members.get? key).map Member.ofValue = m at hkept
    cases hkept <;> simp

/-! ### Documents -/

/-- In the arena of a document the children of a node come after it, so there are as many levels
below a node as there are nodes after it, at most. -/
theorem Sound.rebuildUpTo {doc : Value} (hdoc : doc.Normal) {src : List (Dict Value)} {a : Arena}
    (h : Sound doc src [] a) {limit : Nat} {id : NodeId} {members : Dict Value}
    (hid : src[id]? = some members) (hlimit : a.size ≤ limit + id) :
    a.rebuildUpTo limit id = .object members := by
  induction limit generalizing id members with
  | zero =>
    rw [Nat.zero_add] at hlimit
    exact absurd (h.lt_size hid) (Nat.not_lt_of_le hlimit)
  | succ limit ih =>
    have hwithin := h.within members (List.mem_of_getElem? hid)
    have hholds := h.complete id members hid List.not_mem_nil
    refine hholds.toValue (h.kind id members hid) (hwithin.normal hdoc).sorted hwithin.isNode ?_
    intro id' members' hlt hid'
    have hsucc := Nat.succ_le_of_lt hlt
    exact ih hid' (by omega)

end Reading

/-- **Reading a document loses nothing.** Written back, the root is the document, and every node is
an object of the document. Of this the node keeps the members apart from the tag, each in one of
two places: as children or as a value. -/
theorem Arena.rebuild_eq_document {doc : Value} (hdoc : doc.Normal) {a : Arena}
    (h : Arena.ofValue? doc = some a) :
    a.rebuild Arena.root = doc ∧
    ∀ id < a.size, ∃ members, NodeWithin doc members ∧ a.rebuild id = .object members ∧
      (a.node id).Splits members := by
  obtain ⟨src, members, hsound, hroot, hget⟩ := sound_of_ofValue? hdoc h
  constructor
  · rw [object_of_nodeMembers? hroot]
    exact hsound.rebuildUpTo hdoc hget (Nat.le_add_right _ _)
  · intro id hid
    obtain ⟨ms, hms⟩ : ∃ ms, src[id]? = some ms :=
      ⟨_, List.getElem?_eq_getElem (hsound.size ▸ hid)⟩
    refine ⟨ms, hsound.within ms (List.mem_of_getElem? hms), ?_, ?_⟩
    · exact hsound.rebuildUpTo hdoc hms (Nat.le_add_right _ _)
    · exact (hsound.complete id ms hms List.not_mem_nil).splits

/-- A node of unknown kind with a list of nodes, a list that is none although a node is in it, and
an empty list. -/
def sampleDocument : Value :=
  .object [("body", .array [.object [("type", .string "Literal")], .null]),
    ("extra", .array [.object [("type", .string "Literal")], .int 1]),
    ("rest", .array []), ("type", .string "Odd")]

theorem rebuild_sampleDocument :
    sampleDocument.Normal ∧ ∃ a, Arena.ofValue? sampleDocument = some a ∧
      a.rebuild Arena.root = sampleDocument ∧ ∀ id < a.size, ∃ members,
        NodeWithin sampleDocument members ∧ a.rebuild id = .object members ∧
          (a.node id).Splits members := by
  have hleaf : (Value.object [("type", .string "Literal")]).Normal :=
    .object (List.pairwise_singleton _ _)
      (List.forall_mem_singleton.mpr (.string _))
  have hsorted : Dict.Sorted [("body", .array [.object [("type", .string "Literal")], .null]),
      ("extra", .array [.object [("type", .string "Literal")], .int 1]),
      ("rest", .array []), ("type", Value.string "Odd")] := by
    unfold Dict.Sorted
    decide
  have hdoc : sampleDocument.Normal := by
    refine .object hsorted ?_
    simp only [List.forall_mem_cons]
    refine ⟨.array ?_, .array ?_, .array ?_, .string _, ?_⟩
    · exact List.forall_mem_cons.mpr ⟨hleaf, List.forall_mem_singleton.mpr .null⟩
    · exact List.forall_mem_cons.mpr ⟨hleaf, List.forall_mem_singleton.mpr (.int 1)⟩
    · exact List.forall_mem_nil _
    · exact List.forall_mem_nil _
  exact ⟨hdoc, _, rfl, Arena.rebuild_eq_document hdoc rfl⟩

end Estree
