import Estree.Proofs.Arena.Document
import Estree.Proofs.Arena.Nodes
import Mathlib.Data.List.Forall2
import Mathlib.Data.List.ReduceOption

/-!
# What reading a document builds

The reader numbers the nodes as it meets them and stores the members of a node only later, when all
nodes met after it have been dealt with. So at any time the arena is half built: some nodes are
complete, one is being filled, and the others wait on the stack with nothing stored in them. What
ties this to the document is a list on the side that keeps, for each index, the members of the node
that got it. Every node below a member is then found there by its index (`Kept`).

* `Sound`: the invariant of the reader, with one `Job` for each node that is not complete.
* `Sound.store`, `Sound.fill`, `Sound.finish`: it is kept by storing one member, by storing all
  members of a node, and until the stack is empty.
* `sound_of_ofValue?`: the arena of a document holds the nodes of the document, each complete.
-/

namespace Estree

open Json (Value)

namespace Reading

/-! ### What a node keeps -/

/-- How a place of a list of nodes is kept in node `owner`: a node by its index, which is larger. -/
inductive PlaceKept (src : List (Dict Value)) (owner : NodeId) :
    Option (Dict Value) → Option NodeId → Prop
  | hole : PlaceKept src owner none none
  | node {members : Dict Value} {id : NodeId} (hlt : owner < id) (hid : src[id]? = some members) :
    PlaceKept src owner (some members) (some id)

/-- How node `owner` keeps a member, as children or as a value. -/
inductive Kept (src : List (Dict Value)) (owner : NodeId) :
    Option Member → Option Child → Option Value → Prop
  | absent : Kept src owner none none none
  | node {members : Dict Value} {id : NodeId} (h : PlaceKept src owner (some members) (some id)) :
    Kept src owner (some (.node members)) (some (.node id)) none
  | list {items : List (Option (Dict Value))} {ids : List (Option NodeId)}
    (h : List.Forall₂ (PlaceKept src owner) items ids) :
    Kept src owner (some (.list items)) (some (.list ids)) none
  | prop (v : Value) : Kept src owner (some (.prop v)) none (some v)

/-- Node `owner` keeps the given members and nothing else. -/
structure Holds (src : List (Dict Value)) (owner : NodeId) (n : Node) (members : Dict Value) :
    Prop where
  children : n.children.Sorted
  props : n.props.Sorted
  kept : ∀ key, Kept src owner (memberAt members key) (n.child? key) (n.prop? key)

section Kept

variable {src src' : List (Dict Value)} {owner : NodeId} {n : Node} {seen : Dict Value}
  {key : String} {v : Value}

theorem getElem?_of_isPrefix (hsrc : src <+: src') {id : NodeId} {members : Dict Value}
    (h : src[id]? = some members) : src'[id]? = some members := by
  obtain ⟨more, rfl⟩ := hsrc
  rw [List.getElem?_append_left (List.getElem?_eq_some_iff.mp h).1, h]

theorem PlaceKept.mono (hsrc : src <+: src') {item : Option (Dict Value)} {place : Option NodeId}
    (h : PlaceKept src owner item place) : PlaceKept src' owner item place := by
  cases h with
  | hole => exact .hole
  | node hlt hid => exact .node hlt (getElem?_of_isPrefix hsrc hid)

theorem Kept.mono (hsrc : src <+: src') {m : Option Member} {c : Option Child} {p : Option Value}
    (h : Kept src owner m c p) : Kept src' owner m c p := by
  cases h with
  | absent => exact .absent
  | node h => exact .node (h.mono hsrc)
  | list h => exact .list (h.imp fun _ _ => PlaceKept.mono hsrc)
  | prop v => exact .prop v

theorem Holds.mono (hsrc : src <+: src') {members : Dict Value}
    (h : Holds src owner n members) : Holds src' owner n members :=
  ⟨h.children, h.props, fun key => (h.kept key).mono hsrc⟩

theorem memberAt_append (hkey : key ≠ "type") (hnew : seen.get? key = none) (key' : String) :
    memberAt (seen ++ [(key, v)]) key' =
      if key = key' then some (Member.ofValue v) else memberAt seen key' := by
  unfold memberAt
  by_cases h : key = key'
  · subst h
    rw [if_neg hkey, if_pos rfl, Dict.get?_append, hnew, Dict.get?_cons, if_pos rfl]
    rfl
  · rw [if_neg h, Dict.get?_append, Dict.get?_cons, if_neg h, Dict.get?_nil, Option.or_none]

/-- The tag is not kept. -/
theorem memberAt_append_tag (key' : String) :
    memberAt (seen ++ [("type", v)]) key' = memberAt seen key' := by
  unfold memberAt
  by_cases h : "type" = key'
  · rw [if_pos h.symm, if_pos h.symm]
  · rw [Dict.get?_append, Dict.get?_cons, if_neg h, Dict.get?_nil, Option.or_none]

/-- Under a key that has not been stored there is nothing. -/
theorem memberAt_eq_none (hnew : seen.get? key = none) : memberAt seen key = none := by
  unfold memberAt
  rw [hnew]
  split <;> rfl

/-- A node without members keeps none. -/
theorem holds_nil (kind : Kind) : Holds src owner { kind } [] where
  children := Dict.sorted_nil
  props := Dict.sorted_nil
  kept key := by
    rw [memberAt_eq_none (Dict.get?_nil key)]
    exact .absent

theorem Holds.absent (h : Holds src owner n seen) (hm : memberAt seen key = none) :
    n.child? key = none ∧ n.prop? key = none := by
  have hkept := h.kept key
  rw [hm] at hkept
  generalize n.child? key = c, n.prop? key = p at hkept
  cases hkept with
  | absent => exact ⟨rfl, rfl⟩

theorem Holds.setChild (h : Holds src owner n seen) (hkey : key ≠ "type")
    (hnew : seen.get? key = none) {c : Child}
    (hc : Kept src owner (some (Member.ofValue v)) (some c) none) :
    Holds src owner { n with children := n.children.insert key c } (seen ++ [(key, v)]) where
  children := Dict.sorted_insert h.children key c
  props := h.props
  kept key' := by
    rw [memberAt_append hkey hnew]
    unfold Node.child? Node.prop?
    rw [Dict.get?_insert]
    by_cases hk : key = key'
    · subst hk
      have hp : n.props.get? key = none := (h.absent (memberAt_eq_none hnew)).2
      rw [if_pos rfl, if_pos rfl, hp]
      exact hc
    · rw [if_neg hk, if_neg hk]
      exact h.kept key'

theorem Holds.setProp (h : Holds src owner n seen) (hkey : key ≠ "type")
    (hnew : seen.get? key = none) {w : Value} (hw : Member.ofValue v = .prop w) :
    Holds src owner { n with props := n.props.insert key w } (seen ++ [(key, v)]) where
  children := h.children
  props := Dict.sorted_insert h.props key w
  kept key' := by
    rw [memberAt_append hkey hnew]
    unfold Node.child? Node.prop?
    rw [Dict.get?_insert]
    by_cases hk : key = key'
    · subst hk
      have hc : n.children.get? key = none := (h.absent (memberAt_eq_none hnew)).1
      rw [if_pos rfl, if_pos rfl, hc, hw]
      exact .prop w
    · rw [if_neg hk, if_neg hk]
      exact h.kept key'

/-- Skipping the tag stores nothing. -/
theorem Holds.tag (h : Holds src owner n seen) : Holds src owner n (seen ++ [("type", v)]) where
  children := h.children
  props := h.props
  kept key' := by
    rw [memberAt_append_tag]
    exact h.kept key'

end Kept

/-! ### The invariant -/

/-- A node that is not complete: what is stored of its members, and what is still to come. -/
structure Job where
  id : NodeId
  seen : Dict Value
  rest : Dict Value

/-- The arena holds the nodes of a document whose members are `src`, each under its index. The nodes
that are not complete have a job; nothing is missing in the others. -/
structure Sound (doc : Value) (src : List (Dict Value)) (jobs : List Job) (a : Arena) : Prop where
  size : a.size = src.length
  within : ∀ members ∈ src, NodeWithin doc members
  kind : ∀ id members, src[id]? = some members → a.kind id = kindOfMembers members
  nodup : (jobs.map Job.id).Nodup
  job : ∀ t ∈ jobs, src[t.id]? = some (t.seen ++ t.rest) ∧ Holds src t.id (a.node t.id) t.seen
  complete : ∀ id members, src[id]? = some members → id ∉ jobs.map Job.id →
    Holds src id (a.node id) members

/-- The nodes on the stack wait with nothing stored. -/
def jobs (r : Reading) : List Job := r.pending.map fun p => ⟨p.1, [], p.2⟩

/-! ### The steps of the reader -/

theorem finish_of_nil {r : Reading} (h : r.pending = []) : r.finish = r.arena := by
  rw [finish]
  split
  · rfl
  · next hr =>
    rw [h] at hr
    cases hr

theorem finish_of_cons {r : Reading} {id : NodeId} {members : Dict Value}
    {rest : List (NodeId × Dict Value)} (h : r.pending = (id, members) :: rest) :
    r.finish = (fill id ⟨r.arena, rest⟩ members).finish := by
  rw [finish]
  split
  · next hr =>
    rw [h] at hr
    cases hr
  · next hr =>
    rw [h] at hr
    cases hr
    rfl

namespace Sound

variable {doc : Value} {src : List (Dict Value)} {jobs : List Job} {a : Arena}

theorem lt_size (h : Sound doc src jobs a) {id : NodeId} {members : Dict Value}
    (hid : src[id]? = some members) : id < a.size :=
  h.size ▸ (List.getElem?_eq_some_iff.mp hid).1

/-- Nothing has been read. -/
theorem nil : Sound doc [] [] Arena.empty where
  size := rfl
  within _ hin := absurd hin List.not_mem_nil
  kind _ _ hid := nomatch hid
  nodup := List.nodup_nil
  job _ hin := absurd hin List.not_mem_nil
  complete _ _ hid _ := nomatch hid

/-- A node that is appended is a job. -/
theorem add (h : Sound doc src jobs a) {members : Dict Value} (hm : NodeWithin doc members) :
    Sound doc (src ++ [members]) (⟨a.size, [], members⟩ :: jobs)
      (a.add (kindOfMembers members)) := by
  have hnew : (src ++ [members])[a.size]? = some members := by
    rw [h.size, List.getElem?_concat_length]
  -- below the new index nothing has changed
  have hold : ∀ id ms, (src ++ [members])[id]? = some ms → id ≠ a.size → src[id]? = some ms := by
    intro id ms hid hne
    have hlt := (List.getElem?_eq_some_iff.mp hid).1
    rw [List.length_append, List.length_singleton, ← h.size] at hlt
    rwa [List.getElem?_append_left (by rw [← h.size]; omega)] at hid
  have hnode : ∀ id, id ≠ a.size → (a.add (kindOfMembers members)).node id = a.node id :=
    fun id => Arena.node_push_of_ne
  have hself : (a.add (kindOfMembers members)).node a.size = { kind := kindOfMembers members } :=
    Arena.node_push_size a _
  refine ⟨?_, ?_, ?_, ?_, ?_, ?_⟩
  · rw [Arena.add, Arena.size_push, List.length_append, List.length_singleton, h.size]
  · intro ms hms
    rcases List.mem_append.mp hms with hms | hms
    · exact h.within ms hms
    · rw [List.mem_singleton.mp hms]
      exact hm
  · intro id ms hid
    unfold Arena.kind
    by_cases hne : id = a.size
    · subst hne
      rw [hself, ← Option.some.inj (hnew.symm.trans hid)]
    · rw [hnode id hne]
      exact h.kind id ms (hold id ms hid hne)
  · refine List.nodup_cons.mpr ⟨fun hmem => ?_, h.nodup⟩
    obtain ⟨t, ht, hid⟩ := List.mem_map.mp hmem
    exact absurd hid (ne_of_lt (h.lt_size (h.job t ht).1))
  · intro t ht
    rcases List.mem_cons.mp ht with rfl | ht
    · refine ⟨hnew, ?_⟩
      rw [hself]
      exact holds_nil _
    · obtain ⟨hid, hh⟩ := h.job t ht
      rw [hnode t.id (ne_of_lt (h.lt_size hid))]
      have hpre : src <+: src ++ [members] := List.prefix_append src [members]
      exact ⟨getElem?_of_isPrefix hpre hid, hh.mono hpre⟩
  · intro id ms hid hmem
    have hne : id ≠ a.size := fun heq => hmem (heq ▸ List.mem_cons_self)
    rw [hnode id hne]
    refine (h.complete id ms (hold id ms hid hne) fun hin => hmem ?_).mono
      (List.prefix_append src [members])
    exact List.mem_cons_of_mem a.size hin

/-- One more member of a node is dealt with. -/
theorem advance {id : NodeId} {seen rest : Dict Value} {e : String × Value} {a' : Arena}
    (h : Sound doc src (jobs ++ [⟨id, seen, e :: rest⟩]) a) (hsize : a'.size = a.size)
    (hother : ∀ id', id ≠ id' → a'.node id' = a.node id')
    (hkind : (a'.node id).kind = (a.node id).kind)
    (hself : Holds src id (a.node id) seen → Holds src id (a'.node id) (seen ++ [e])) :
    Sound doc src (jobs ++ [⟨id, seen ++ [e], rest⟩]) a' := by
  have hids : (jobs ++ [Job.mk id (seen ++ [e]) rest]).map Job.id =
      (jobs ++ [Job.mk id seen (e :: rest)]).map Job.id := by
    rw [List.map_append, List.map_append]
    rfl
  have hbusy := h.job _ (List.mem_append_right jobs List.mem_cons_self)
  refine ⟨hsize.trans h.size, h.within, ?_, hids ▸ h.nodup, ?_, ?_⟩
  · intro id' ms hid
    rw [← h.kind id' ms hid]
    unfold Arena.kind
    by_cases heq : id = id'
    · rw [← heq, hkind]
    · rw [hother id' heq]
  · intro t ht
    rcases List.mem_append.mp ht with ht | ht
    · have hne : id ≠ t.id := by
        have hnodup := h.nodup
        rw [List.map_append] at hnodup
        exact ((List.nodup_append.mp hnodup).2.2 _ (List.mem_map_of_mem ht) _
          List.mem_cons_self).symm
      rw [hother t.id hne]
      exact h.job t (List.mem_append_left _ ht)
    · rw [List.mem_singleton.mp ht]
      exact ⟨by simpa using hbusy.1, hself hbusy.2⟩
  · intro id' ms hid hmem
    rw [hids] at hmem
    have hne : id ≠ id' := fun heq =>
      hmem (heq ▸ List.mem_map_of_mem (List.mem_append_right jobs List.mem_cons_self))
    rw [hother id' hne]
    exact h.complete id' ms hid hmem

/-- What the job of a node says of the node. -/
theorem busy {id : NodeId} {seen rest : Dict Value}
    (h : Sound doc src (jobs ++ [⟨id, seen, rest⟩]) a) :
    src[id]? = some (seen ++ rest) ∧ Holds src id (a.node id) seen :=
  h.job _ (List.mem_append_right jobs List.mem_cons_self)

theorem advance_modify {id : NodeId} {seen rest : Dict Value} {e : String × Value}
    (h : Sound doc src (jobs ++ [⟨id, seen, e :: rest⟩]) a) {f : Node → Node}
    (hkind : ∀ n, (f n).kind = n.kind)
    (hf : ∀ n, Holds src id n seen → Holds src id (f n) (seen ++ [e])) :
    Sound doc src (jobs ++ [⟨id, seen ++ [e], rest⟩]) (a.modify id f) := by
  have hself := Arena.node_modify_self (h.lt_size h.busy.1) f
  refine h.advance (Arena.size_modify a id f) (fun id' hne => Arena.node_modify_of_ne hne f) ?_ ?_
  · rw [hself, hkind]
  · rw [hself]
    exact hf (a.node id)

/-- The nodes of a list are appended one after the other. -/
theorem appendList {r : Reading} (h : Sound doc src (r.jobs ++ jobs) r.arena)
    {items : List (Option (Dict Value))}
    (hitems : ∀ members, some members ∈ items → NodeWithin doc members) :
    Sound doc (src ++ items.reduceOption) ((r.appendList items).jobs ++ jobs)
      (r.appendList items).arena := by
  induction items generalizing r src with
  | nil =>
    rw [List.reduceOption_nil, List.append_nil]
    exact h
  | cons item items ih =>
    have hrest : ∀ members, some members ∈ items → NodeWithin doc members :=
      fun members hm => hitems members (List.mem_cons_of_mem item hm)
    cases item with
    | none =>
      rw [List.reduceOption_cons_of_none]
      exact ih h hrest
    | some members =>
      rw [List.reduceOption_cons_of_some, List.append_cons]
      have hadd : Sound doc (src ++ [members]) ((r.append members).jobs ++ jobs)
          (r.append members).arena := h.add (hitems members List.mem_cons_self)
      exact ih hadd hrest

/-- The indices that are foreseen for the nodes of a list are those they get. -/
theorem placeIds_kept {owner : NodeId} (items : List (Option (Dict Value)))
    (src : List (Dict Value)) (howner : owner < src.length) :
    List.Forall₂ (PlaceKept (src ++ items.reduceOption) owner) items
      (Reading.placeIds src.length items) := by
  induction items generalizing src with
  | nil => exact .nil
  | cons item items ih =>
    cases item with
    | none => exact .cons .hole (ih src howner)
    | some members =>
      have hget : (src ++ members :: items.reduceOption)[src.length]? = some members := by
        rw [List.getElem?_append_right (Nat.le_refl _), Nat.sub_self]
        rfl
      have hlt : owner < (src ++ [members]).length :=
        lt_of_lt_of_le howner (List.prefix_append src [members]).length_le
      have htail := ih (src ++ [members]) hlt
      rw [← List.append_cons, List.length_append, List.length_singleton] at htail
      exact .cons (.node howner hget) htail

variable {id : NodeId} {seen rest : Dict Value} {key : String} {v : Value}

/-- The member that comes next is a member of the node. -/
theorem memberAt_next (hdoc : doc.Normal)
    (h : Sound doc src (jobs ++ [⟨id, seen, (key, v) :: rest⟩]) a) (hkey : key ≠ "type") :
    NodeWithin doc (seen ++ (key, v) :: rest) ∧ seen.get? key = none ∧
      memberAt (seen ++ (key, v) :: rest) key = some (Member.ofValue v) := by
  have hwithin := h.within _ (List.mem_of_getElem? h.busy.1)
  have hsorted := (hwithin.normal hdoc).sorted
  refine ⟨hwithin, Dict.get?_eq_none_of_sorted_append hsorted, ?_⟩
  have hmem : (key, v) ∈ seen ++ (key, v) :: rest :=
    List.mem_append_right seen List.mem_cons_self
  rw [memberAt, if_neg hkey, Dict.get?_of_mem hsorted hmem]
  rfl

/-- **Storing a member keeps the invariant.** The nodes below it become jobs. -/
theorem store (hdoc : doc.Normal) {r : Reading}
    (h : Sound doc src (r.jobs ++ [⟨id, seen, (key, v) :: rest⟩]) r.arena) (hkey : key ≠ "type") :
    ∃ src', src <+: src' ∧
      Sound doc src' ((r.store id key (Member.ofValue v)).jobs ++ [⟨id, seen ++ [(key, v)], rest⟩])
        (r.store id key (Member.ofValue v)).arena := by
  obtain ⟨hwithin, hnew, hmember⟩ := h.memberAt_next hdoc hkey
  have hlt := h.lt_size h.busy.1
  cases hv : Member.ofValue v with
  | node members =>
    rw [hv] at hmember
    have hadd : Sound doc (src ++ [members])
        ((r.append members).jobs ++ [⟨id, seen, (key, v) :: rest⟩]) (r.append members).arena :=
      h.add (.node hwithin hmember)
    have hget : (src ++ [members])[r.arena.size]? = some members := by
      rw [h.size, List.getElem?_concat_length]
    refine ⟨src ++ [members], List.prefix_append src _, hadd.advance_modify (fun _ => rfl) ?_⟩
    refine fun n hn => hn.setChild hkey hnew ?_
    rw [hv]
    exact .node (.node hlt hget)
  | list items =>
    rw [hv] at hmember
    have hadd := h.appendList fun members hc => .item hwithin hmember hc
    have hplaces := placeIds_kept items src (h.size ▸ hlt)
    refine ⟨src ++ items.reduceOption, List.prefix_append src _,
      hadd.advance_modify (fun _ => rfl) ?_⟩
    refine fun n hn => hn.setChild hkey hnew ?_
    rw [hv, h.size]
    exact .list hplaces
  | prop w =>
    refine ⟨src, List.prefix_rfl, h.advance_modify (fun _ => rfl) ?_⟩
    exact fun n hn => hn.setProp hkey hnew hv

/-- **Storing all members of a node completes it.** -/
theorem fill (hdoc : doc.Normal) {r : Reading}
    (h : Sound doc src (r.jobs ++ [⟨id, seen, rest⟩]) r.arena) :
    ∃ src', src <+: src' ∧
      Sound doc src' ((r.fill id rest).jobs ++ [⟨id, seen ++ rest, []⟩])
        (r.fill id rest).arena := by
  induction rest generalizing r src seen with
  | nil =>
    rw [List.append_nil]
    exact ⟨src, List.prefix_rfl, h⟩
  | cons e rest ih =>
    obtain ⟨key, v⟩ := e
    rw [Reading.fill, List.append_cons seen]
    by_cases hkey : key = "type"
    · subst hkey
      rw [if_pos rfl]
      exact ih (h.advance rfl (fun _ _ => rfl) rfl Holds.tag)
    · rw [if_neg hkey]
      obtain ⟨src₁, hpre₁, h₁⟩ := h.store hdoc hkey
      obtain ⟨src₂, hpre₂, h₂⟩ := ih h₁
      exact ⟨src₂, hpre₁.trans hpre₂, h₂⟩

/-- A node with nothing left to store is no job any more. -/
theorem finished {members : Dict Value} (h : Sound doc src (jobs ++ [⟨id, members, []⟩]) a) :
    Sound doc src jobs a := by
  obtain ⟨hid, hholds⟩ := h.busy
  have hnodup := h.nodup
  rw [List.map_append] at hnodup
  refine ⟨h.size, h.within, h.kind, (List.nodup_append.mp hnodup).1,
    fun t ht => h.job t (List.mem_append_left _ ht), fun id' ms hid' hmem => ?_⟩
  by_cases heq : id' = id
  · subst heq
    rw [List.append_nil, hid'] at hid
    obtain rfl := Option.some.inj hid
    exact hholds
  · refine h.complete id' ms hid' fun hin => ?_
    rw [List.map_append] at hin
    rcases List.mem_append.mp hin with hin | hin
    · exact hmem hin
    · exact heq (List.mem_singleton.mp hin)

/-- The first job may as well be the last. -/
theorem rotate {t : Job} (h : Sound doc src (t :: jobs) a) : Sound doc src (jobs ++ [t]) a := by
  have hperm : (jobs ++ [t]).Perm (t :: jobs) := List.perm_append_singleton t jobs
  refine ⟨h.size, h.within, h.kind, (hperm.map Job.id).nodup_iff.mpr h.nodup,
    fun t' ht => h.job t' (hperm.mem_iff.mp ht), fun id ms hid hmem => ?_⟩
  exact h.complete id ms hid fun hin => hmem ((hperm.map Job.id).mem_iff.mpr hin)

/-- **When the stack is empty, all nodes are complete.** -/
theorem finish (hdoc : doc.Normal) (r : Reading) (h : Sound doc src r.jobs r.arena) :
    ∃ src', src <+: src' ∧ Sound doc src' [] r.finish := by
  induction r using Reading.finish.induct generalizing src with
  | case1 r hr =>
    rw [Reading.finish_of_nil hr]
    rw [Reading.jobs, hr] at h
    exact ⟨src, List.prefix_rfl, h⟩
  | case2 r id members rest hr ih =>
    rw [Reading.finish_of_cons hr]
    rw [Reading.jobs, hr] at h
    have hstart : Sound doc src (Reading.jobs ⟨r.arena, rest⟩ ++ [⟨id, [], members⟩]) r.arena :=
      h.rotate
    obtain ⟨src₁, hpre₁, h₁⟩ := hstart.fill hdoc
    obtain ⟨src₂, hpre₂, h₂⟩ := ih h₁.finished
    exact ⟨src₂, hpre₁.trans hpre₂, h₂⟩

end Sound

end Reading

open Reading in
/-- **The arena of a document holds the nodes of the document**, each complete, and the root has
index 0. -/
theorem sound_of_ofValue? {doc : Value} (hdoc : doc.Normal) {a : Arena}
    (h : Arena.ofValue? doc = some a) :
    ∃ src members, Sound doc src [] a ∧ nodeMembers? doc = some members ∧
      src[Arena.root]? = some members := by
  obtain ⟨members, hm, rfl⟩ := Option.map_eq_some_iff.mp h
  have hroot : Sound doc [members] (Reading.append ⟨Arena.empty, []⟩ members).jobs
      (Reading.append ⟨Arena.empty, []⟩ members).arena := Sound.nil.add (.root hm)
  obtain ⟨src, hpre, hsound⟩ := hroot.finish hdoc
  exact ⟨src, members, hsound, hm, getElem?_of_isPrefix hpre rfl⟩

end Estree
