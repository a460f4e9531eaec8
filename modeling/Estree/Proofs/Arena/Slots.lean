import Estree.Proofs.Arena.Fields

/-!
# The places of a node, exactly

A walk visits the places that the fields of a node have, field by field. Only in a template literal
chunks and expressions take turns. A template of `e` expressions has room for `e + 1` chunks; if it
has fewer, there are empty places at the end, and any more are left out. So what a walk does not
visit of the fields in its order are these surplus chunks, and nothing else.

* `TakesTurns`: where chunks and expressions are when they take turns;
* `takesTurns_interleave`: this is what `interleave` makes of them;
* `Arena.childSlots_exact`: the places of a node of any known kind.
-/

namespace Estree

/-! ### Taking turns -/

/-- Every other item of a list, from the first or from the second one on. -/
def everyOther {α : Type} (fromFirst : Bool) : List α → List α
  | [] => []
  | x :: xs => if fromFirst then x :: everyOther false xs else everyOther true xs

/-- Chunks and items take turns in a list. -/
structure TakesTurns (chunks items slots : List (Option NodeId)) : Prop where
  size : slots.length = 2 * items.length + 1
  itemAt : ∀ i < items.length, slots[2 * i + 1]? = items[i]?
  chunkAt : ∀ i ≤ items.length, slots[2 * i]? = some (chunks.getD i none)
  withoutChunks : everyOther false slots = items
  withoutItems : everyOther true slots =
    chunks.take (items.length + 1) ++ List.replicate (items.length + 1 - chunks.length) none
  count : ∀ id, slots.count (some id) + (chunks.drop (items.length + 1)).count (some id) =
    chunks.count (some id) + items.count (some id)

section Turns

variable {α : Type}

theorem head?_join (chunks : List (Option α)) : chunks.head?.join = chunks.getD 0 none := by
  cases chunks <;> rfl

theorem length_interleave (chunks items : List (Option α)) :
    (interleave chunks items).length = 2 * items.length + 1 := by
  induction items generalizing chunks with
  | nil => rfl
  | cons item items ih =>
    rw [interleave, List.length_cons, List.length_cons, ih, List.length_cons]
    omega

/-- The items stand at the odd positions. -/
theorem getElem?_interleave_item (chunks items : List (Option α)) (i : Nat) :
    (interleave chunks items)[2 * i + 1]? = items[i]? := by
  induction items generalizing chunks i with
  | nil => rfl
  | cons item items ih =>
    cases i with
    | zero => rfl
    | succ i => exact ih chunks.tail i

/-- The chunks stand at the even positions, as far as there is room for them. -/
theorem getElem?_interleave_chunk (chunks items : List (Option α)) {i : Nat}
    (hi : i ≤ items.length) :
    (interleave chunks items)[2 * i]? = some (chunks.getD i none) := by
  induction items generalizing chunks i with
  | nil =>
    obtain rfl := Nat.le_zero.mp hi
    exact congrArg some (head?_join chunks)
  | cons item items ih =>
    cases i with
    | zero => exact congrArg some (head?_join chunks)
    | succ i =>
      refine (ih chunks.tail (Nat.le_of_succ_le_succ hi)).trans (congrArg some ?_)
      cases chunks <;> rfl

theorem everyOther_interleave_items (chunks items : List (Option α)) :
    everyOther false (interleave chunks items) = items := by
  induction items generalizing chunks with
  | nil => rfl
  | cons item items ih => exact congrArg (item :: ·) (ih chunks.tail)

theorem everyOther_interleave_chunks (chunks items : List (Option α)) :
    everyOther true (interleave chunks items) =
      chunks.take (items.length + 1) ++
        List.replicate (items.length + 1 - chunks.length) none := by
  induction items generalizing chunks with
  | nil => cases chunks <;> simp [interleave, everyOther]
  | cons item items ih =>
    have hstep : everyOther true (interleave chunks (item :: items)) =
        chunks.head?.join :: everyOther true (interleave chunks.tail items) := rfl
    rw [hstep, ih]
    cases chunks with
    | nil => simp [List.replicate_succ]
    | cons chunk chunks => simp

end Turns

/-- **Chunks and items that are interleaved take turns.** -/
theorem takesTurns_interleave (chunks items : List (Option NodeId)) :
    TakesTurns chunks items (interleave chunks items) where
  size := length_interleave chunks items
  itemAt i _ := getElem?_interleave_item chunks items i
  chunkAt _ hi := getElem?_interleave_chunk chunks items hi
  withoutChunks := everyOther_interleave_items chunks items
  withoutItems := everyOther_interleave_chunks chunks items
  count id := count_interleave id chunks items

/-! ### The places of a node -/

namespace Node

/-- What a field of a node contributes to a walk: its one node, its list with the empty places in
it, or one empty place if the node has no such field. -/
def contents (n : Node) (field : String) : List (Option NodeId) :=
  match n.child? field with
  | none => [none]
  | some (.node id) => [some id]
  | some (.list items) => items

/-- The chunks of a template literal for which there is no room between its expressions. Other nodes
have none. -/
def surplusChunks (n : Node) : List (Option NodeId) :=
  if n.kind = .templateLiteral then
    (n.fieldSlots "quasis").drop ((n.fieldSlots "expressions").length + 1)
  else []

theorem visitSlots_eq_contents (n : Node) (field : String) :
    n.visitSlots field = n.contents field := by
  unfold visitSlots contents
  cases n.child? field with
  | none => rfl
  | some child => cases child <;> rfl

theorem count_contents (n : Node) (field : String) (id : NodeId) :
    (n.contents field).count (some id) = (n.fieldSlots field).count (some id) := by
  rw [← visitSlots_eq_contents, count_visitSlots]

end Node

theorem Kind.exists_walkOrder {kind : Kind} (h : kind.isUnknown = false) :
    ∃ fields, kind.walkOrder = some fields := by
  cases kind with
  | unknown tag => cases h
  | _ => exact ⟨_, rfl⟩

/-- **The places of a node of known kind.** They are what the fields in the order of the walk
contain, one field after the other; in a template literal the chunks take turns with the
expressions. A node is in the places as often as it is in these fields, but for surplus chunks, and
there are none of these unless a template has more chunks than there is room for. -/
theorem Arena.childSlots_exact (a : Arena) (id : NodeId) (hknown : (a.kind id).isUnknown = false) :
    ∃ fields slots, (a.kind id).walkOrder = some fields ∧ a.childSlots id = some slots ∧
      (a.kind id ≠ .templateLiteral → slots = fields.flatMap (a.node id).contents) ∧
      (a.kind id = .templateLiteral →
        TakesTurns ((a.node id).fieldSlots "quasis") ((a.node id).fieldSlots "expressions")
          slots) ∧
      (∀ child, slots.count (some child) + (a.node id).surplusChunks.count (some child) =
        (fields.flatMap (a.node id).fieldSlots).count (some child)) ∧
      ((a.kind id = .templateLiteral → ((a.node id).fieldSlots "quasis").length ≤
          ((a.node id).fieldSlots "expressions").length + 1) →
        ∀ child, slots.count (some child) =
          (fields.flatMap (a.node id).fieldSlots).count (some child)) := by
  obtain ⟨fields, hfields⟩ := Kind.exists_walkOrder hknown
  unfold childSlots kind at *
  generalize a.node id = n at *
  by_cases htemplate : n.kind = .templateLiteral
  · have hturns := takesTurns_interleave (n.fieldSlots "quasis") (n.fieldSlots "expressions")
    obtain rfl : ["quasis", "expressions"] = fields := by
      rw [htemplate] at hfields
      exact Option.some.inj hfields
    have hcount (child : NodeId) :
        (["quasis", "expressions"].flatMap n.fieldSlots).count (some child) =
          (n.fieldSlots "quasis").count (some child) +
            (n.fieldSlots "expressions").count (some child) := by
      rw [← List.count_append]
      simp
    refine ⟨_, _, hfields, if_pos htemplate, fun h => absurd htemplate h, fun _ => hturns, ?_, ?_⟩
    · intro child
      rw [Node.surplusChunks, if_pos htemplate, hcount]
      exact hturns.count child
    · intro hroom child
      have hnone := List.drop_eq_nil_of_le (hroom htemplate)
      have hall := hturns.count child
      rw [hnone, List.count_nil, Nat.add_zero] at hall
      rw [hcount, hall]
  · have hslots : n.childSlots = some (fields.flatMap n.contents) := by
      rw [Node.childSlots, if_neg htemplate, hfields, Option.map_some]
      exact congrArg (fun f => some (fields.flatMap f)) (funext n.visitSlots_eq_contents)
    have hcount (child : NodeId) : (fields.flatMap n.contents).count (some child) =
        (fields.flatMap n.fieldSlots).count (some child) := by
      rw [List.count_flatMap, List.count_flatMap]
      exact congrArg (fun f => (fields.map f).sum)
        (funext fun field => n.count_contents field child)
    refine ⟨_, _, hfields, hslots, fun _ => rfl, fun h => absurd h htemplate, ?_, fun _ => hcount⟩
    intro child
    rw [Node.surplusChunks, if_neg htemplate, List.count_nil, Nat.add_zero, hcount]

/-- A template literal with one chunk too many, and a hole among its chunks. -/
def crowdedTemplate : Arena where
  nodes := #[
    { kind := .templateLiteral,
      children := [("expressions", .node 1), ("quasis", .list [some 2, none, some 3])] },
    { kind := .identifier }, { kind := .templateElement }, { kind := .templateElement }]

theorem crowdedTemplate_childSlots_exact :
    (crowdedTemplate.kind 0).isUnknown = false ∧
    ∃ fields slots, (crowdedTemplate.kind 0).walkOrder = some fields ∧
      crowdedTemplate.childSlots 0 = some slots ∧ slots = [some 2, some 1, none] ∧
      slots.count (some 3) + [some 3].count (some 3) =
        (fields.flatMap (crowdedTemplate.node 0).fieldSlots).count (some 3) := by
  have hknown : (crowdedTemplate.kind 0).isUnknown = false := rfl
  obtain ⟨fields, slots, hfields, hslots, -, -, hcount, -⟩ :=
    crowdedTemplate.childSlots_exact 0 hknown
  have heq : slots = [some 2, some 1, none] := (Option.some.inj hslots).symm
  exact ⟨hknown, fields, slots, hfields, hslots, heq, hcount 3⟩

end Estree
