import Estree.Unicode.CaseTable
import Estree.Unicode.Newest

/-!
# Upper and lower case

Two characters differ by case only if one folds to the other; `foldCase` adds to a set what differs
from its members by case only. `lowercase` writes a text in small letters.
-/

namespace Estree.Unicode

/-- The characters from `first` to `last`, every `step`th of them, are mapped by adding
`target - first`. -/
structure CaseRun where
  /-- The first character. -/
  first : Nat
  /-- The last character. -/
  last : Nat
  /-- The distance from one character to the next. -/
  step : Nat
  /-- What the first character is mapped to. -/
  target : Nat
  deriving DecidableEq, Repr

namespace CaseRun

/-- Read an entry such as `A-E:B` or `A-E/2:B`. -/
def ofText? (s : String) : Option CaseRun :=
  match s.splitOn ":" with
  | [source, target] =>
    match source.splitOn "/" with
    | [range, step] =>
      let (first, last) := rangeOfText range
      some ⟨first, last, hexNumber step, hexNumber target⟩
    | _ =>
      let (first, last) := rangeOfText source
      some ⟨first, last, 1, hexNumber target⟩
  | _ => none

/-- What a character is mapped to. -/
def target? (r : CaseRun) (c : Nat) : Option Nat :=
  if r.first ≤ c && c ≤ r.last && (c - r.first) % r.step = 0 then some (r.target + (c - r.first))
  else none

/-- The characters that are mapped, each with what it is mapped to. -/
def pairs (r : CaseRun) : List (Nat × Nat) :=
  (List.range ((r.last - r.first) / r.step + 1)).map fun i =>
    (r.first + i * r.step, r.target + i * r.step)

end CaseRun

/-- The groups of characters that differ by case only. -/
def foldGroups : List (List Nat) :=
  ((words casePairs).filterMap CaseRun.ofText?).flatMap (fun r => r.pairs.map fun (a, b) => [a, b])
    ++ (words caseGroups).map fun g => (g.splitOn "+").map hexNumber

/-- A set together with all that differs from its members by case only. -/
def foldCase (s : CodeSet) : CodeSet :=
  let related := foldGroups.filter (·.any s.contains)
  .ofRanges (s.ranges ++ related.flatMap fun g => g.map fun c => (c, c))

/-- A set of ASCII characters together with the ASCII letters that differ from its members by case
only. -/
def foldAsciiCase (s : CodeSet) : CodeSet :=
  let related := (List.range 26).filter fun i => s.contains (0x41 + i) || s.contains (0x61 + i)
  .ofRanges (s.ranges ++ related.flatMap fun i => [(0x41 + i, 0x41 + i), (0x61 + i, 0x61 + i)])

/-! ### Small letters -/

/-- Does a word end at a capital sigma? A letter goes before it and none comes after it, marks
aside. -/
def isFinalSigma (before after : List Char) : Bool :=
  let next (cs : List Char) : Bool :=
    match cs.dropWhile fun c => caseIgnorable.contains c.toNat with
    | c :: _ => cased.contains c.toNat
    | [] => false
  next before && !next after

/-- A text in small letters; `before` is what went before, the last character first. -/
def lowercaseChars (runs : List CaseRun) (before : List Char) : List Char → List Char
  | [] => []
  | c :: rest =>
    let small :=
      if c.toNat < 128 then [c.toLower]
      else if c = 'Σ' then [if isFinalSigma before rest then 'ς' else 'σ']
      else if c = 'İ' then ['i', '\u0307']
      else [((runs.findSome? (·.target? c.toNat)).map Char.ofNat).getD c]
    small ++ lowercaseChars runs (c :: before) rest

/-- A text in small letters. -/
def lowercase (s : String) : String :=
  String.ofList (lowercaseChars ((words smallLetters).filterMap CaseRun.ofText?) [] s.toList)

end Estree.Unicode
