import Estree.Proofs.Outline.Agreement

/-!
# What a restricted outline leaves out

What is hidden in an outline can be told from the lines of the whole one. The node that a line is in
is the nearest one before it at the depth above, and what is below a line comes right after it, up
to the next line that is not deeper. So each line, with those before it and after it, tells whether
it is kept and how many children it has.

That this is the same as cutting off branches is said of forests, whose lines are at the depths that
their branches have.

* `Outline.Spot`: a line of an outline with those around it;
* `Outline.Forest`: the lines as a forest, with the nodes they stand for;
* `Outline.Forest.kept_spots`: the lines that are kept are those of the pruned forest.
-/

namespace Estree

namespace Outline

/-! ### Lines with those around them -/

/-- An entry with the entries before it and after it. -/
structure Spot where
  /-- The entries before it. -/
  earlier : List Entry
  /-- The entry. -/
  entry : Entry
  /-- The entries after it. -/
  later : List Entry

/-- Some entries, each with those around it, if `earlier` are before them and `after` follow. -/
def spots (earlier : List Entry) : List Entry → List Entry → List Spot
  | [], _ => []
  | e :: rest, after => ⟨earlier, e, rest ++ after⟩ :: spots (earlier ++ [e]) rest after

/-- The entries that a node at this depth is in, the root first, if `earlier` are before it: the
nearest ones at the depths above. -/
def above (earlier : List Entry) (depth : Nat) : List Entry :=
  (List.range depth).filterMap (nearest earlier)

/-- Is the entry shown without what is below it? -/
def Settings.cuts (s : Settings) (e : Entry) : Bool := s.hides e.kind e.depth

namespace Spot

/-- The entries of the ancestors. -/
def ancestors (x : Spot) : List Entry := above x.earlier x.entry.depth

/-- The entries of the children. Up to the next entry that is not deeper, all entries are below
this one. -/
def children (x : Spot) : List Entry :=
  (x.later.takeWhile fun e => x.entry.depth < e.depth).filter fun e => e.depth = x.entry.depth + 1

/-- None of the ancestors is shown without what is below it. -/
def isKept (s : Settings) (x : Spot) : Bool := x.ancestors.all fun e => !s.cuts e

/-- The entry as it is when what is below it may be left out. -/
def restricted (s : Settings) (x : Spot) : Entry :=
  { x.entry with hidden := if s.cuts x.entry then x.children.length else 0 }

end Spot

/-- The lines that are kept, as they are when what is below them may be left out, each with its
node. -/
def kept (s : Settings) (lines : List (Spot × NodeId)) : List (Entry × NodeId) :=
  (lines.filter fun x => x.1.isKept s).map fun x => (x.1.restricted s, x.2)

/-- What is reported of the node of an entry if the walk gets stuck there. -/
def unknown? (x : Entry × NodeId) : Option UnknownKind :=
  if x.1.kind.isUnknown then some ⟨x.1.kind.name, x.2⟩ else none

@[simp] theorem spots_nil (earlier after : List Entry) : spots earlier [] after = [] := rfl

@[simp] theorem spots_cons (earlier rest after : List Entry) (e : Entry) :
    spots earlier (e :: rest) after =
      ⟨earlier, e, rest ++ after⟩ :: spots (earlier ++ [e]) rest after := rfl

theorem length_spots (earlier entries after : List Entry) :
    (spots earlier entries after).length = entries.length := by
  induction entries generalizing earlier with
  | nil => rfl
  | cons e rest ih => simp [ih]

theorem map_entry_spots (earlier entries after : List Entry) :
    (spots earlier entries after).map Spot.entry = entries := by
  induction entries generalizing earlier with
  | nil => rfl
  | cons e rest ih => simp [ih]

theorem kept_cons (s : Settings) (x : Spot × NodeId) (lines : List (Spot × NodeId)) :
    kept s (x :: lines) =
      if x.1.isKept s then (x.1.restricted s, x.2) :: kept s lines else kept s lines := by
  cases hx : x.1.isKept s <;> simp [kept, hx]

theorem kept_append (s : Settings) (lines more : List (Spot × NodeId)) :
    kept s (lines ++ more) = kept s lines ++ kept s more := by
  simp [kept]

theorem spots_append (earlier entries more after : List Entry) :
    spots earlier (entries ++ more) after =
      spots earlier entries (more ++ after) ++ spots (earlier ++ entries) more after := by
  induction entries generalizing earlier with
  | nil => simp
  | cons e rest ih => simp [ih]

/-- What is not above a node is not one of those that the node is in. -/
theorem above_append_of_le {entries : List Entry} {depth : Nat}
    (h : ∀ e ∈ entries, depth ≤ e.depth) (earlier : List Entry) :
    above (earlier ++ entries) depth = above earlier depth := by
  induction entries generalizing earlier with
  | nil => simp
  | cons e rest ih =>
    obtain ⟨he, hrest⟩ := List.forall_mem_cons.mp h
    rw [List.append_cons, ih hrest]
    refine List.filterMap_congr fun d hd => ?_
    have hlt := List.mem_range.mp hd
    rw [nearest_append, if_neg (by omega)]

/-- What is right below a node is in what the node is in, and in the node. -/
theorem above_succ (earlier : List Entry) (e : Entry) :
    above (earlier ++ [e]) (e.depth + 1) = above earlier e.depth ++ [e] := by
  have hnearest : nearest (earlier ++ [e]) e.depth = some e := by rw [nearest_append, if_pos rfl]
  have hself : above (earlier ++ [e]) e.depth = above earlier e.depth :=
    above_append_of_le (by simp) earlier
  rw [above, List.range_succ, List.filterMap_append, List.filterMap_cons_some hnearest, ← hself]
  rfl

/-! ### Forests -/

/-- The lines of an outline as a forest, with the nodes that they stand for. -/
inductive Forest where
  /-- There is no line. -/
  | nil
  /-- A line with what is below it, and the trees after that. -/
  | cons (e : Entry) (id : NodeId) (below rest : Forest)

namespace Forest

/-- The lines in their order, with their nodes. -/
def flat : Forest → List (Entry × NodeId)
  | nil => []
  | cons e id below rest => (e, id) :: (flat below ++ flat rest)

/-- The lines in their order. -/
def entries (F : Forest) : List Entry := F.flat.map Prod.fst

/-- The nodes in the order of their lines. -/
def nodes (F : Forest) : List NodeId := F.flat.map Prod.snd

/-- How many trees there are. -/
def width : Forest → Nat
  | nil => 0
  | cons _ _ _ rest => rest.width + 1

/-- The roots are at the given depth, and what is below a node is one level deeper. -/
def At : Nat → Forest → Prop
  | _, nil => True
  | depth, cons e _ below rest => e.depth = depth ∧ below.At (depth + 1) ∧ rest.At depth

/-- The lines without what is below those that are shown without it. -/
def pruned (s : Settings) : Forest → List (Entry × NodeId)
  | nil => []
  | cons e id below rest =>
    ({ e with hidden := if s.cuts e then below.width else 0 }, id) ::
      ((if s.cuts e then [] else below.pruned s) ++ rest.pruned s)

variable {s : Settings} {e : Entry} {id : NodeId} {below rest F : Forest} {depth : Nat}

@[simp] theorem entries_nil : nil.entries = [] := rfl

@[simp] theorem entries_cons :
    (cons e id below rest).entries = e :: (below.entries ++ rest.entries) := by
  simp [entries, flat]

@[simp] theorem nodes_nil : nil.nodes = [] := rfl

@[simp] theorem nodes_cons :
    (cons e id below rest).nodes = id :: (below.nodes ++ rest.nodes) := by
  simp [nodes, flat]

theorem length_nodes (F : Forest) : F.nodes.length = F.entries.length := by
  simp [nodes, entries]

/-- The lines with those around them are the lines. -/
theorem map_spots (F : Forest) (earlier after : List Entry) :
    ((spots earlier F.entries after).zip F.nodes).map (fun x => (x.1.entry, x.2)) = F.flat := by
  have hflat : F.flat = F.entries.zip F.nodes := List.zip_of_prod rfl rfl
  rw [hflat, ← map_entry_spots earlier F.entries after, List.zip_map_left, map_entry_spots]
  rfl

theorem eq_nil_of_width (h : F.width = 0) : F = nil := by
  cases F with
  | nil => rfl
  | cons e id below rest => exact absurd h (Nat.succ_ne_zero _)

/-- Where there is nothing to be left out, the lines stay as they are. -/
theorem prune_eq (he : e.hidden = 0) (h : s.cuts e → below.width = 0) (id : NodeId) :
    (({ e with hidden := if s.cuts e then below.width else 0 }, id) ::
      if s.cuts e then [] else below.pruned s) = (e, id) :: below.pruned s := by
  have hhidden : (if s.cuts e then below.width else 0) = e.hidden := by
    rw [he]
    split
    · next hcuts => exact h hcuts
    · rfl
  rw [hhidden]
  split
  · next hcuts =>
    obtain rfl := eq_nil_of_width (h hcuts)
    rfl
  · rfl

theorem At.le_depth (h : F.At depth) : ∀ e ∈ F.entries, depth ≤ e.depth := by
  induction F generalizing depth with
  | nil => simp
  | cons e id below rest ihb ihr =>
    obtain ⟨rfl, hbelow, hrest⟩ := h
    rw [entries_cons]
    intro e' he'
    rcases List.mem_cons.mp he' with rfl | he'
    · exact Nat.le_refl _
    rcases List.mem_append.mp he' with he' | he'
    · have hle := ihb hbelow e' he'
      omega
    · exact ihr hrest e' he'

/-- What comes next is not deeper than the roots, if that is so after the forest. -/
theorem At.head_append (h : F.At depth) {after : List Entry}
    (hafter : ∀ e ∈ after.head?, e.depth ≤ depth) :
    ∀ e ∈ (F.entries ++ after).head?, e.depth ≤ depth := by
  cases F with
  | nil => simpa using hafter
  | cons e id below rest => simpa using Nat.le_of_eq h.1

/-- The lines at the depth of the roots are the roots. -/
theorem At.length_filter (h : F.At depth) :
    (F.entries.filter fun e => e.depth = depth).length = F.width := by
  induction F generalizing depth with
  | nil => rfl
  | cons e id below rest ihb ihr =>
    obtain ⟨rfl, hbelow, hrest⟩ := h
    have hnone : (below.entries.filter fun e' => e'.depth = e.depth) = [] := by
      refine List.filter_eq_nil_iff.mpr fun e' he' => ?_
      have hle := hbelow.le_depth e' he'
      simp
      omega
    simp [hnone, ihr hrest, width]

/-- The children of a node are the roots of what is below it. -/
theorem At.length_children (h : below.At (e.depth + 1)) {after : List Entry}
    (hafter : ∀ e' ∈ after.head?, e'.depth ≤ e.depth) (earlier : List Entry) :
    (Spot.children ⟨earlier, e, below.entries ++ after⟩).length = below.width := by
  have hbelow : ∀ e' ∈ below.entries, decide (e.depth < e'.depth) = true := by
    intro e' he'
    have hle := h.le_depth e' he'
    simp
    omega
  have hnone : after.takeWhile (fun e' => decide (e.depth < e'.depth)) = [] := by
    cases after with
    | nil => rfl
    | cons e' after =>
      have hle := hafter e' rfl
      exact List.takeWhile_cons_of_neg (by simpa using hle)
  rw [Spot.children, List.takeWhile_append_of_pos hbelow, hnone, List.append_nil]
  exact h.length_filter

/-- Neither a node nor what is below it is above the trees that come after it. -/
theorem At.above_past (h : below.At (e.depth + 1)) (earlier : List Entry) :
    above (earlier ++ [e] ++ below.entries) e.depth = above earlier e.depth := by
  have hdeep : ∀ e' ∈ e :: below.entries, e.depth ≤ e'.depth := by
    refine List.forall_mem_cons.mpr ⟨Nat.le_refl _, fun e' he' => ?_⟩
    exact Nat.le_of_succ_le (h.le_depth e' he')
  rw [List.append_assoc]
  exact above_append_of_le hdeep earlier

/-- A line is in one line of each depth above its own, if that is so for the roots. -/
theorem At.depth_ancestors (h : F.At depth) {earlier : List Entry}
    (hearlier : (above earlier depth).map Entry.depth = List.range depth) (after : List Entry) :
    ∀ x ∈ spots earlier F.entries after,
      x.ancestors.map Entry.depth = List.range x.entry.depth := by
  induction F generalizing depth earlier after with
  | nil => simp
  | cons e id below rest ihb ihr =>
    obtain ⟨rfl, hbelow, hrest⟩ := h
    have hb : (above (earlier ++ [e]) (e.depth + 1)).map Entry.depth =
        List.range (e.depth + 1) := by
      rw [above_succ, List.map_append, hearlier, List.range_succ]
      rfl
    have hr : (above (earlier ++ [e] ++ below.entries) e.depth).map Entry.depth =
        List.range e.depth := by
      rw [hbelow.above_past, hearlier]
    intro x hx
    rw [entries_cons, spots_cons, spots_append] at hx
    rcases List.mem_cons.mp hx with rfl | hx
    · exact hearlier
    rcases List.mem_append.mp hx with hx | hx
    · exact ihb hbelow hb _ x hx
    · exact ihr hrest hr _ x hx

/-- **The lines that are kept are those of the pruned forest**, if nothing above the forest is shown
without what is below it; otherwise none is kept. -/
theorem kept_spots (s : Settings) (h : F.At depth) {after : List Entry}
    (hafter : ∀ e ∈ after.head?, e.depth ≤ depth) (earlier : List Entry) :
    kept s ((spots earlier F.entries after).zip F.nodes) =
      if (above earlier depth).all fun e => !s.cuts e then F.pruned s else [] := by
  induction F generalizing depth earlier after with
  | nil => simp [kept, pruned]
  | cons e id below rest ihb ihr =>
    obtain ⟨rfl, hbelow, hrest⟩ := h
    have hnext := hrest.head_append hafter
    have hkept : (Spot.mk earlier e (below.entries ++ rest.entries ++ after)).isKept s =
        (above earlier e.depth).all fun e => !s.cuts e := rfl
    have hrestricted : (Spot.mk earlier e (below.entries ++ rest.entries ++ after)).restricted s =
        { e with hidden := if s.cuts e then below.width else 0 } := by
      rw [Spot.restricted, List.append_assoc, hbelow.length_children hnext]
    have hlength : (spots (earlier ++ [e]) below.entries (rest.entries ++ after)).length =
        below.nodes.length := by
      rw [length_spots, length_nodes]
    have hihb := ihb hbelow (fun e' he' => Nat.le_succ_of_le (hnext e' he')) (earlier ++ [e])
    have hihr := ihr hrest hafter (earlier ++ [e] ++ below.entries)
    rw [above_succ, List.all_append] at hihb
    rw [hbelow.above_past] at hihr
    rw [entries_cons, nodes_cons, spots_cons, spots_append, List.zip_cons_cons,
      List.zip_append hlength, kept_cons, kept_append, hihb, hihr, hkept, hrestricted]
    cases (above earlier e.depth).all fun e => !s.cuts e with
    | false => simp
    | true => cases hcuts : s.cuts e <;> simp [pruned, hcuts]

end Forest

end Outline

end Estree
