import Estree.Proofs.Arena.Tree

/-!
# Visited fields

A walk goes through some fields of a node only, and in a template literal it leaves out text chunks
for which there is no place. `Node.Visits` says where it goes, and `Node.mem_childSlots_iff` that
`Node.childSlots` is a list of just that. A field is visited once, so the list holds no more than
the fields do (`Node.count_childSlots_le`).
-/

namespace Estree

theorem Kind.nodup_walkOrder {kind : Kind} {fields : List String}
    (h : kind.walkOrder = some fields) : fields.Nodup := by
  cases kind <;> cases h <;> decide

theorem count_reduceOption (slots : List (Option NodeId)) (id : NodeId) :
    slots.reduceOption.count id = slots.count (some id) := by
  induction slots with
  | nil => rfl
  | cons slot slots ih =>
    cases slot with
    | none => rw [List.reduceOption_cons_of_none, ih, List.count_cons_of_ne (by simp)]
    | some id' =>
      rw [List.reduceOption_cons_of_some, List.count_cons, List.count_cons, ih]
      simp

/-- Nothing but the surplus chunks is left out. -/
theorem count_interleave (id : NodeId) (chunks items : List (Option NodeId)) :
    (interleave chunks items).count (some id) +
        (chunks.drop (items.length + 1)).count (some id) =
      chunks.count (some id) + items.count (some id) := by
  have hhead (chunks : List (Option NodeId)) :
      [chunks.head?.join].count (some id) + chunks.tail.count (some id) =
        chunks.count (some id) := by
    cases chunks with
    | nil => rfl
    | cons chunk chunks =>
      rw [List.count_cons, List.count_cons]
      simp [Nat.add_comm]
  induction items generalizing chunks with
  | nil => exact (List.drop_one (l := chunks)).symm ▸ hhead chunks
  | cons item items ih =>
    have heq := hhead chunks
    have htail := ih chunks.tail
    rw [List.drop_tail] at htail
    rw [interleave, List.count_cons, List.count_cons, List.count_cons, List.length_cons]
    rw [List.count_cons, List.count_nil] at heq
    omega

theorem mem_interleave_iff (id : NodeId) (chunks items : List (Option NodeId)) :
    some id ∈ interleave chunks items ↔
      some id ∈ items ∨ ∃ i ≤ items.length, chunks[i]? = some (some id) := by
  have hhead (chunks : List (Option NodeId)) :
      some id = chunks.head?.join ↔ chunks[0]? = some (some id) := by
    cases chunks <;> simp [eq_comm]
  induction items generalizing chunks with
  | nil => simp [interleave, hhead]
  | cons item items ih =>
    simp only [interleave, List.mem_cons, ih, hhead]
    constructor
    · rintro (h | h | h | ⟨i, hi, h⟩)
      · exact .inr ⟨0, Nat.zero_le _, h⟩
      · exact .inl (.inl h)
      · exact .inl (.inr h)
      · rw [List.getElem?_tail] at h
        exact .inr ⟨i + 1, Nat.succ_le_succ hi, h⟩
    · rintro ((h | h) | ⟨i, hi, h⟩)
      · exact .inr (.inl h)
      · exact .inr (.inr (.inl h))
      · cases i with
        | zero => exact .inl h
        | succ i =>
          rw [← List.getElem?_tail] at h
          exact .inr (.inr (.inr ⟨i, Nat.le_of_succ_le_succ hi, h⟩))

/-- If one field gives something else, no more is added than what it gives. -/
theorem count_flatMap_update_le {fields : List String} (hf : fields.Nodup) (key : String)
    (new : List (Option NodeId)) (old : String → List (Option NodeId)) (slot : Option NodeId) :
    (fields.flatMap fun field => if key = field then new else old field).count slot ≤
      new.count slot + (fields.flatMap old).count slot := by
  induction fields with
  | nil => exact Nat.zero_le _
  | cons field fields ih =>
    obtain ⟨hnot, hf⟩ := List.nodup_cons.mp hf
    rw [List.flatMap_cons, List.flatMap_cons, List.count_append, List.count_append]
    by_cases h : key = field
    · subst h
      have hrest : (fields.flatMap fun field => if key = field then new else old field) =
          fields.flatMap old := by
        refine List.flatMap_congr fun field hmem => if_neg ?_
        rintro rfl
        exact hnot hmem
      rw [if_pos rfl, hrest]
      omega
    · have hle := ih hf
      rw [if_neg h]
      omega

/-- The nodes in some fields, each field taken once, are nodes in fields. -/
theorem count_fields_le {fields : List String} (hf : fields.Nodup) (d : Dict Child) (id : NodeId) :
    (fields.flatMap fun field => ((d.get? field).map Child.slots).getD []).count (some id) ≤
      (d.flatMap fun e => e.2.links).count id := by
  induction d with
  | nil =>
    have hnil : (fields.flatMap fun field =>
        ((Dict.get? ([] : Dict Child) field).map Child.slots).getD []) = [] :=
      List.flatMap_eq_nil_iff.mpr fun _ _ => rfl
    rw [hnil]
    exact Nat.zero_le _
  | cons e d ih =>
    have hstep (field : String) : ((Dict.get? (e :: d) field).map Child.slots).getD [] =
        if e.1 = field then e.2.slots else ((Dict.get? d field).map Child.slots).getD [] := by
      rw [Dict.get?_cons]
      split <;> rfl
    simp only [hstep]
    have hle := count_flatMap_update_le hf e.1 e.2.slots
      (fun field => ((Dict.get? d field).map Child.slots).getD []) (some id)
    rw [List.flatMap_cons, List.count_append, Child.links, count_reduceOption]
    omega

namespace Node

/-- A walk over the node visits a field that holds `id`. In a template literal this may be any of
the expressions, and of the text chunks one that is followed by an expression or comes after the
last one. -/
def Visits (n : Node) (id : NodeId) : Prop :=
  if n.kind = .templateLiteral then
    some id ∈ n.fieldSlots "expressions" ∨
      ∃ i ≤ (n.fieldSlots "expressions").length, (n.fieldSlots "quasis")[i]? = some (some id)
  else ∃ fields, n.kind.walkOrder = some fields ∧ ∃ field ∈ fields, some id ∈ n.fieldSlots field

theorem mem_visitSlots_iff (n : Node) (field : String) (id : NodeId) :
    some id ∈ n.visitSlots field ↔ some id ∈ n.fieldSlots field := by
  unfold visitSlots fieldSlots
  cases n.child? field <;> simp

theorem count_visitSlots (n : Node) (field : String) (id : NodeId) :
    (n.visitSlots field).count (some id) = (n.fieldSlots field).count (some id) := by
  unfold visitSlots fieldSlots
  cases n.child? field <;> simp

theorem mem_childSlots_iff (n : Node) (id : NodeId) :
    some id ∈ n.childSlots.getD [] ↔ n.Visits id := by
  unfold childSlots Visits
  split
  · exact mem_interleave_iff id _ _
  · cases n.kind.walkOrder with
    | none => simp
    | some fields => simp [mem_visitSlots_iff]

/-- A node is in visited slots as often as it is in fields at most. -/
theorem count_childSlots_le (n : Node) (id : NodeId) :
    (n.childSlots.getD []).count (some id) ≤ n.links.count id := by
  unfold childSlots
  split
  · have hcount := count_interleave id (n.fieldSlots "quasis") (n.fieldSlots "expressions")
    have hfields : ["quasis", "expressions"].Nodup := by decide
    have hlinks := count_fields_le hfields n.children id
    rw [List.flatMap_cons, List.flatMap_cons, List.flatMap_nil, List.append_nil,
      List.count_append] at hlinks
    refine Nat.le_trans ?_ hlinks
    exact hcount ▸ Nat.le_add_right _ _
  · cases h : n.kind.walkOrder with
    | none => exact Nat.zero_le _
    | some fields =>
      have hlinks := count_fields_le (Kind.nodup_walkOrder h) n.children id
      rw [List.count_flatMap] at hlinks
      rw [Option.map_some, Option.getD_some, List.count_flatMap]
      have hcount : List.count (some id) ∘ n.visitSlots = List.count (some id) ∘ n.fieldSlots :=
        funext fun field => n.count_visitSlots field id
      rw [hcount]
      exact hlinks

end Node

end Estree
