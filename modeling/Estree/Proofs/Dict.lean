import Estree.Dict
import Mathlib.Data.String.Basic

/-!
# Dictionaries as maps

What is kept in a dictionary is what can be looked up in it. An insertion changes what is found
under one key (`get?_insert`) and keeps the keys in order (`sorted_insert`), and of two dictionaries
in which the same is found each is the other (`ext_of_sorted`).
-/

namespace Estree.Dict

variable {α β : Type}

/-! ### Insertion -/

theorem get?_insert (d : Dict α) (key : String) (value : α) (key' : String) :
    (d.insert key value).get? key' = if key = key' then some value else d.get? key' := by
  induction d with
  | nil => rw [insert, get?_cons]
  | cons e d ih =>
    obtain ⟨k, v⟩ := e
    rw [insert]
    split
    · rw [get?_cons]
    · split
      · next h =>
        subst h
        simp only [get?_cons]
        split <;> rfl
      · next h =>
        rw [get?_cons, get?_cons, ih]
        split
        · next hk => rw [if_neg fun hk' => h (hk'.trans hk.symm)]
        · rfl

/-- What comes after all other keys is inserted at the end. -/
theorem insert_last {d : Dict α} {key : String} (h : ∀ e ∈ d, e.1 < key) (value : α) :
    d.insert key value = d ++ [(key, value)] := by
  induction d with
  | nil => rfl
  | cons e d ih =>
    obtain ⟨hlt, hd⟩ := List.forall_mem_cons.mp h
    rw [insert, if_neg (lt_asymm hlt), if_neg (ne_of_gt hlt), ih hd, List.cons_append]

theorem mem_insert {d : Dict α} {key : String} {value : α} {e : String × α}
    (h : e ∈ d.insert key value) : e = (key, value) ∨ e ∈ d := by
  induction d with
  | nil => exact Or.inl (List.mem_singleton.mp h)
  | cons f d ih =>
    rw [insert] at h
    split at h
    · exact List.mem_cons.mp h
    · split at h
      · exact (List.mem_cons.mp h).imp_right (List.mem_cons_of_mem f)
      · rcases List.mem_cons.mp h with rfl | h
        · exact Or.inr List.mem_cons_self
        · exact (ih h).imp_right (List.mem_cons_of_mem f)

theorem sorted_nil : Sorted ([] : Dict α) := List.Pairwise.nil

theorem sorted_insert {d : Dict α} (h : Sorted d) (key : String) (value : α) :
    Sorted (d.insert key value) := by
  induction d with
  | nil => exact List.pairwise_singleton _ _
  | cons e d ih =>
    obtain ⟨k, v⟩ := e
    obtain ⟨hk, hd⟩ := List.pairwise_cons.mp h
    rw [insert]
    split
    · next hlt =>
      refine List.pairwise_cons.mpr ⟨fun f hf => ?_, h⟩
      rcases List.mem_cons.mp hf with rfl | hf
      · exact hlt
      · exact lt_trans hlt (hk f hf)
    · next hlt =>
      split
      · next heq =>
        subst heq
        exact List.pairwise_cons.mpr ⟨hk, hd⟩
      · next hne =>
        refine List.pairwise_cons.mpr ⟨fun f hf => ?_, ih hd⟩
        rcases mem_insert hf with rfl | hf
        · exact lt_of_le_of_ne (not_lt.mp hlt) (Ne.symm hne)
        · exact hk f hf

theorem sorted_foldl_insert (entries : List (String × α)) {d : Dict α} (h : Sorted d) :
    Sorted (entries.foldl (fun d e => d.insert e.1 e.2) d) := by
  induction entries generalizing d with
  | nil => exact h
  | cons e entries ih => exact ih (sorted_insert h e.1 e.2)

theorem sorted_ofList (entries : List (String × α)) : Sorted (ofList entries) :=
  sorted_foldl_insert entries sorted_nil

/-! ### Looking up -/

theorem mem_of_get? {d : Dict α} {key : String} {value : α} (h : d.get? key = some value) :
    (key, value) ∈ d := by
  obtain ⟨e, he, rfl⟩ := Option.map_eq_some_iff.mp h
  have hkey : e.1 = key := by simpa using List.find?_some he
  exact hkey ▸ List.mem_of_find?_eq_some he

theorem get?_eq_none {d : Dict α} {key : String} (h : ∀ e ∈ d, e.1 ≠ key) : d.get? key = none := by
  cases hg : d.get? key with
  | none => rfl
  | some value => exact absurd rfl (h _ (mem_of_get? hg))

theorem get?_of_mem {d : Dict α} (hd : Sorted d) {key : String} {value : α}
    (h : (key, value) ∈ d) : d.get? key = some value := by
  induction d with
  | nil => cases h
  | cons e d ih =>
    obtain ⟨hk, hd⟩ := List.pairwise_cons.mp hd
    rw [get?_cons]
    rcases List.mem_cons.mp h with rfl | h
    · rw [if_pos rfl]
    · rw [if_neg (ne_of_lt (hk _ h)), ih hd h]

theorem get?_append (d d' : Dict α) (key : String) :
    get? (d ++ d') key = (d.get? key).or (d'.get? key) := by
  induction d with
  | nil => rfl
  | cons e d ih =>
    rw [List.cons_append, get?_cons, get?_cons, ih]
    split <;> rfl

/-- Under the first key of a sorted dictionary nothing else is kept. -/
theorem get?_tail_eq_none {e : String × α} {d : Dict α} (h : Sorted (e :: d)) :
    get? d e.1 = none :=
  get?_eq_none fun _ hf => ne_of_gt ((List.pairwise_cons.mp h).1 _ hf)

/-- What stands before an entry has other keys. -/
theorem get?_eq_none_of_sorted_append {d d' : Dict α} {e : String × α} (h : Sorted (d ++ e :: d')) :
    d.get? e.1 = none :=
  get?_eq_none fun _ hf => ne_of_lt ((List.pairwise_append.mp h).2.2 _ hf _ List.mem_cons_self)

/-- The first key of a sorted dictionary is the least. -/
theorem head_le_of_get? {e : String × α} {d : Dict α} (h : Sorted (e :: d)) {key : String}
    {value : α} (hg : get? (e :: d) key = some value) : e.1 ≤ key := by
  rcases List.mem_cons.mp (mem_of_get? hg) with he | hmem
  · exact le_of_eq (congrArg Prod.fst he).symm
  · exact le_of_lt ((List.pairwise_cons.mp h).1 _ hmem)

/-- **A sorted dictionary is determined by what is found in it.** -/
theorem ext_of_sorted {d d' : Dict α} (hd : Sorted d) (hd' : Sorted d')
    (h : ∀ key, d.get? key = d'.get? key) : d = d' := by
  induction d generalizing d' with
  | nil =>
    cases d' with
    | nil => rfl
    | cons e d' =>
      have := h e.1
      simp [get?_cons] at this
  | cons e d ih =>
    cases d' with
    | nil =>
      have := h e.1
      simp [get?_cons] at this
    | cons e' d' =>
      have hfound : get? (e :: d) e.1 = some e.2 := by rw [get?_cons, if_pos rfl]
      have hfound' : get? (e' :: d') e'.1 = some e'.2 := by rw [get?_cons, if_pos rfl]
      have hkey : e.1 = e'.1 :=
        le_antisymm (head_le_of_get? hd (by rw [h]; exact hfound'))
          (head_le_of_get? hd' (by rw [← h]; exact hfound))
      have hval : e.2 = e'.2 := by
        rw [h, hkey, hfound'] at hfound
        exact (Option.some.inj hfound).symm
      obtain rfl : e = e' := Prod.ext hkey hval
      refine congrArg (e :: ·) (ih (List.pairwise_cons.mp hd).2 (List.pairwise_cons.mp hd').2
        fun key => ?_)
      by_cases hk : e.1 = key
      · rw [← hk, get?_tail_eq_none hd, get?_tail_eq_none hd']
      · have := h key
        rwa [get?_cons, get?_cons, if_neg hk, if_neg hk] at this

/-! ### Lists of entries -/

theorem sorted_mapValues {d : Dict α} (h : Sorted d) (f : α → β) :
    Sorted (d.map fun e => (e.1, f e.2)) :=
  List.pairwise_map.mpr h

theorem get?_mapValues (d : Dict α) (f : α → β) (key : String) :
    get? (d.map fun e => (e.1, f e.2)) key = (d.get? key).map f := by
  induction d with
  | nil => rfl
  | cons e d ih =>
    rw [List.map_cons, get?_cons, get?_cons, ih]
    split <;> rfl

theorem insert_mapValues (d : Dict α) (f : α → β) (key : String) (value : α) :
    ((d.insert key value).map fun e => (e.1, f e.2)) =
      Dict.insert (d.map fun e => (e.1, f e.2)) key (f value) := by
  induction d with
  | nil => rfl
  | cons e d ih =>
    rw [insert, List.map_cons, insert]
    split
    · rfl
    · split
      · rfl
      · exact congrArg _ ih

/-- Where no key occurs twice, it does not matter from which side one looks. -/
theorem get?_reverse {d : Dict α} (h : Sorted d) (key : String) :
    get? d.reverse key = d.get? key := by
  induction d with
  | nil => rfl
  | cons e d ih =>
    rw [List.reverse_cons, get?_append, ih (List.pairwise_cons.mp h).2, get?_cons, get?_cons]
    by_cases hk : e.1 = key
    · subst hk
      rw [get?_tail_eq_none h, if_pos rfl, if_pos rfl]
      rfl
    · rw [if_neg hk, if_neg hk, get?_nil, Option.or_none]

theorem get?_foldl_insert (entries : List (String × α)) (d : Dict α) (key : String) :
    (entries.foldl (fun d e => d.insert e.1 e.2) d).get? key =
      (get? entries.reverse key).or (d.get? key) := by
  induction entries generalizing d with
  | nil => rfl
  | cons e entries ih =>
    rw [List.foldl_cons, ih, get?_insert, List.reverse_cons, get?_append, Option.or_assoc,
      get?_cons]
    split <;> rfl

/-- Of two entries with one key the later one stays. -/
theorem get?_ofList (entries : List (String × α)) (key : String) :
    (ofList entries).get? key = get? entries.reverse key := by
  rw [ofList, get?_foldl_insert, get?_nil, Option.or_none]

end Estree.Dict
