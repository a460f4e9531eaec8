/-!
# Dictionaries sorted by key

A `Dict` is an association list whose keys stand in increasing order, each once. The order is that
of code points, which for text is also the order of the UTF-8 bytes. JSON objects and the members
of a syntax node are kept this way, so that listing one twice gives the same list.

## Main definitions

* `Dict.get?` and `Dict.insert`; an insertion replaces the value of a key that is there already;
* `Dict.ofList`, where of two entries with one key the later one stays.
-/

namespace Estree

/-- Entries with string keys, in increasing order of the keys. -/
abbrev Dict (α : Type) := List (String × α)

namespace Dict

variable {α : Type}

/-- The value stored under `key`. -/
def get? (d : Dict α) (key : String) : Option α :=
  (d.find? (·.1 == key)).map (·.2)

/-- Store `value` under `key`, in the place of what was there. -/
def insert (d : Dict α) (key : String) (value : α) : Dict α :=
  match d with
  | [] => [(key, value)]
  | (k, v) :: rest =>
    if key < k then (key, value) :: (k, v) :: rest
    else if key = k then (key, value) :: rest
    else (k, v) :: insert rest key value

/-- Store the entries one after the other. -/
def ofList (entries : List (String × α)) : Dict α :=
  entries.foldl (fun d e => insert d e.1 e.2) []

/-- The keys stand in increasing order, each once. -/
def Sorted (d : Dict α) : Prop := d.Pairwise fun a b => a.1 < b.1

@[simp] theorem get?_nil (key : String) : get? ([] : Dict α) key = none := rfl

theorem get?_cons (e : String × α) (d : Dict α) (key : String) :
    get? (e :: d) key = if e.1 = key then some e.2 else get? d key := by
  unfold get?
  by_cases h : e.1 = key
  · simp [h]
  · simp [beq_eq_false_iff_ne.mpr h, h]

end Dict

end Estree
