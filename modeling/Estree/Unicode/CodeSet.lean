/-!
# Sets of code points

A set of code points is kept as a list of ranges in increasing order that neither meet nor touch, so
equal sets are equal lists.
-/

namespace Estree.Unicode

/-- The largest code point. -/
def lastCode : Nat := 0x10FFFF

/-- A set of code points, as ranges with both ends included. -/
structure CodeSet where
  /-- The ranges, in increasing order. -/
  ranges : List (Nat × Nat)
  deriving DecidableEq, Repr, Inhabited

namespace CodeSet

/-- Is a code point in the set? -/
def contains (s : CodeSet) (c : Nat) : Bool := s.ranges.any fun (lo, hi) => lo ≤ c && c ≤ hi

/-- Join ranges that are in increasing order of their lower ends and may meet or touch. -/
def joinRanges : List (Nat × Nat) → List (Nat × Nat)
  | [] => []
  | r :: rest => go #[] r rest
where
  /-- `done` is finished, and `current` may still grow. -/
  go (done : Array (Nat × Nat)) (current : Nat × Nat) : List (Nat × Nat) → List (Nat × Nat)
    | [] => (done.push current).toList
    | r :: rest =>
      if r.1 ≤ current.2 + 1 then go done (current.1, max current.2 r.2) rest
      else go (done.push current) r rest

/-- The set of all code points in some ranges, given in any order. -/
def ofRanges (ranges : List (Nat × Nat)) : CodeSet :=
  ⟨joinRanges ((ranges.filter fun r => r.1 ≤ r.2).mergeSort fun a b => a.1 ≤ b.1)⟩

/-- The set without code points. -/
def empty : CodeSet := ⟨[]⟩

/-- The set of one code point. -/
def singleton (c : Nat) : CodeSet := ⟨[(c, c)]⟩

/-- The set of all code points. -/
def full : CodeSet := ⟨[(0, lastCode)]⟩

/-- The code points of either set. -/
def union (a b : CodeSet) : CodeSet := ofRanges (a.ranges ++ b.ranges)

/-- The code points of any of the sets. -/
def unions (sets : List CodeSet) : CodeSet := ofRanges (sets.flatMap ranges)

/-- The gaps between ranges in increasing order, from `start` on. -/
def gaps (start : Nat) : List (Nat × Nat) → List (Nat × Nat)
  | [] => if start ≤ lastCode then [(start, lastCode)] else []
  | (lo, hi) :: rest =>
    if start < lo then (start, lo - 1) :: gaps (hi + 1) rest else gaps (hi + 1) rest

/-- The code points that are not in the set. -/
def complement (s : CodeSet) : CodeSet := ⟨gaps 0 s.ranges⟩

/-- The code points of both sets. -/
def inter (a b : CodeSet) : CodeSet := (a.complement.union b.complement).complement

/-- The code points of the first set that are not in the second. -/
def diff (a b : CodeSet) : CodeSet := (a.complement.union b).complement

/-- The code points of exactly one of the sets. -/
def symmDiff (a b : CodeSet) : CodeSet := (a.diff b).union (b.diff a)

/-- The characters of the set: its code points without the halves of surrogate pairs. -/
def scalars (s : CodeSet) : CodeSet :=
  ⟨s.ranges.flatMap fun (lo, hi) =>
    [(lo, min hi 0xD7FF), (max lo 0xE000, hi)].filter fun (lo, hi) => lo ≤ hi⟩

end CodeSet

/-! ### Tables in texts -/

/-- The value of a hexadecimal number in capital letters. -/
def hexNumber (s : String) : Nat :=
  s.foldl (fun n c => n * 16 + if c.isDigit then c.toNat - 48 else c.toNat - 55) 0

/-- The words of some lines. -/
def words (lines : List String) : List String := lines.flatMap (·.splitOn " ")

/-- The range `A-B`, or `A` for a range of one. -/
def rangeOfText (s : String) : Nat × Nat :=
  match s.splitOn "-" with
  | [a, b] => (hexNumber a, hexNumber b)
  | _ => (hexNumber s, hexNumber s)

/-- The ranges of an entry: `A-B` or `A` for one range, and `A-B/S` for every `S`th code point from
`A` to `B`. -/
def rangesOfText (s : String) : List (Nat × Nat) :=
  match s.splitOn "/" with
  | [range, step] =>
    let (first, last) := rangeOfText range
    let step := hexNumber step
    (List.range ((last - first) / step + 1)).map fun i => (first + i * step, first + i * step)
  | _ => [rangeOfText s]

/-- The set of the ranges in some lines. -/
def CodeSet.ofText (lines : List String) : CodeSet := ofRanges ((words lines).flatMap rangesOfText)

end Estree.Unicode
