import Estree.Regex.Pattern

/-!
# Shapes of search patterns

A pattern that is read is put together from its parts and made simpler on the way: characters in a
row become one text, empty parts of a row are left out, a choice between characters or between sets
becomes one set, and what all branches of a choice start with is taken out of it. None of this
changes what the pattern describes, but it decides how much room the pattern takes.

A row is `seq a b`, where `a` is its first part and no row, and `b` is the rest. A choice is
`alt a b` in the same way.

## Main definitions

* `Shape`: the shapes;
* `Shape.ofSet`, `Shape.row`, `Shape.choice` and `Shape.times`: putting them together;
* `Shape.pattern`: what a shape describes.
-/

namespace Estree.Regex

open Unicode (CodeSet)

/-- The shape of a pattern. -/
inductive Shape where
  /-- Nothing. -/
  | empty
  /-- Some characters, one at least. -/
  | literal (codes : List Nat)
  /-- One character of a set that has none or several; `unicode` tells whether the set was written
  for characters or for bytes. -/
  | set (unicode : Bool) (s : CodeSet)
  /-- A position. -/
  | look (l : Look)
  /-- Several times in a row; `greedy` tells whether a longer match is preferred. -/
  | repeat (s : Shape) (least : Nat) (most : Option Nat) (greedy : Bool)
  /-- A group; no two groups have the same number. -/
  | group (number : Nat) (s : Shape)
  /-- One after the other. -/
  | seq (a b : Shape)
  /-- One or the other. -/
  | alt (a b : Shape)
  deriving DecidableEq, Inhabited

namespace Shape

/-! ### What can be said of all matches -/

/-- Are all matches empty? -/
def isZeroWidth : Shape → Bool
  | empty | look _ => true
  | literal _ | set .. => false
  | .repeat s .. | group _ s => s.isZeroWidth
  | seq a b | alt a b => a.isZeroWidth && b.isZeroWidth

/-- The least length of a match, where a character of a set counts once; `none` if the pattern has a
part without a match. -/
def leastLength? : Shape → Option Nat
  | empty | look _ => some 0
  | literal codes => some codes.length
  | set _ s => if s.ranges.isEmpty then none else some 1
  | .repeat s least _ _ => s.leastLength?.map (least * ·)
  | group _ s => s.leastLength?
  | seq a b => do return (← a.leastLength?) + (← b.leastLength?)
  | alt a b => do return min (← a.leastLength?) (← b.leastLength?)

/-- Do all matches start at the start of the text, as far as the first parts tell? -/
def startsText : Shape → Bool
  | look l => l = .textStart
  | empty | literal _ | set .. => false
  | .repeat s least _ _ => 0 < least && s.startsText
  | group _ s => s.startsText
  | seq a b => a.startsText || (a.isZeroWidth && b.startsText)
  | alt a b => a.startsText && b.startsText

/-- Do all matches end at the end of the text, as far as the last parts tell? -/
def endsText : Shape → Bool
  | look l => l = .textEnd
  | empty | literal _ | set .. => false
  | .repeat s least _ _ => 0 < least && s.endsText
  | group _ s => s.endsText
  | seq a b => b.endsText || (b.isZeroWidth && a.endsText)
  | alt a b => a.endsText && b.endsText

/-! ### Putting shapes together -/

/-- One character of a set. -/
def ofSet (unicode : Bool) (s : CodeSet) : Shape :=
  let s := s.scalars
  match s.ranges with
  | [] => .set false .empty
  | [(lo, hi)] => if lo = hi then .literal [lo] else .set unicode s
  | _ => .set unicode s

/-- The parts of a row. -/
def parts : Shape → List Shape
  | empty => []
  | seq a b => a :: b.parts
  | s => [s]

/-- A part in front of others. Two texts that meet become one. -/
def consPart (s : Shape) (rest : List Shape) : List Shape :=
  match s, rest with
  | .literal a, .literal b :: rest => .literal (a ++ b) :: rest
  | s, rest => s :: rest

/-- The row of some parts, which are no rows. -/
def ofParts : List Shape → Shape
  | [] => .empty
  | [s] => s
  | s :: rest => .seq s (ofParts rest)

/-- One after the other. -/
def row (shapes : List Shape) : Shape := ofParts ((shapes.flatMap parts).foldr consPart [])

/-- The branches of a choice. -/
def branches : Shape → List Shape
  | alt a b => a :: b.branches
  | s => [s]

/-- The choice between some branches, which are no choices. -/
def ofBranches : List Shape → Shape
  | [] => .set false .empty
  | [s] => s
  | s :: rest => .alt s (ofBranches rest)

/-- The character that a shape stands for. -/
def character? : Shape → Option Nat
  | literal [c] => some c
  | _ => none

/-- The set that a shape stands for. -/
def set? : Shape → Option CodeSet
  | set _ s => some s
  | _ => none

/-- The text that a shape stands for. -/
def text? : Shape → Option (List Nat)
  | literal codes => some codes
  | _ => none

/-- The set that a choice stands for whose branches are all characters, or all sets. -/
def setOfBranches? (shapes : List Shape) : Option CodeSet :=
  match shapes.mapM character? with
  | some codes => some (.ofRanges (codes.map fun c => (c, c)))
  | none => (shapes.mapM set?).map .unions

/-- One or the other. -/
def choiceOf (shapes : List Shape) : Shape :=
  match shapes.flatMap branches with
  | [s] => s
  | shapes =>
    match setOfBranches? shapes with
    | some s => ofSet true s
    | none => ofBranches shapes

/-- The front that two lists have in common. -/
def commonFront {α : Type} [DecidableEq α] : List α → List α → List α
  | a :: as, b :: bs => if a = b then a :: commonFront as bs else []
  | _, _ => []

/-- The parts of a row of two at least. -/
def rowParts? : Shape → Option (List Shape)
  | seq a b => some (a :: b.parts)
  | _ => none

/-- What all branches of a choice start with, and what is left of each; only rows are looked at. -/
def splitFront? (shapes : List Shape) : Option (List Shape × List Shape) :=
  match shapes.mapM rowParts? with
  | some (first :: rest) =>
    match rest.foldl commonFront first with
    | [] => none
    | front => some (front, (first :: rest).map fun parts => row (parts.drop front.length))
  | _ => none

/-- One or the other; what all branches start with goes before the choice. -/
def choice (shapes : List Shape) : Shape :=
  match shapes.flatMap branches with
  | [s] => s
  | shapes =>
    match setOfBranches? shapes, splitFront? shapes with
    | none, some (front, rests) => row (front ++ [choiceOf rests])
    | _, _ => choiceOf shapes

/-- Several times in a row. To be empty more than once is the same as to be empty once. -/
def times (s : Shape) (least : Nat) (most : Option Nat) (greedy : Bool) : Shape :=
  let (least, most) :=
    if s.isZeroWidth then (min least 1, some ((most.map (min 1)).getD 1)) else (least, most)
  if most = some 0 then .empty
  else if least = 1 && most = some 1 then s
  else .repeat s least most greedy

/-! ### Meaning -/

/-- What a shape describes. -/
def pattern : Shape → Pattern
  | empty => .empty
  | literal codes => .text codes
  | set _ s => .one s
  | look l => .look l
  | .repeat s least most _ => .repeat s.pattern least most
  | group _ s => s.pattern
  | seq a b => .seq a.pattern b.pattern
  | alt a b => .alt a.pattern b.pattern

end Shape

end Estree.Regex
