import Estree.Unicode.CodeSet

/-!
# Search patterns

A pattern describes pieces of a text. Whether a text has a piece that a pattern describes is found
by following sets of positions: where can a match be that has used up the pattern so far? A pattern
takes the set of positions where it starts to the set of positions where it may end, and never goes
back.

A set of positions is a number whose binary digits say which positions are in it. What a pattern
asks of single characters and of their surroundings becomes such a set once the text is known.

## Main definitions

* `Pattern`: the patterns;
* `Pattern.plan`: a pattern with the sets of positions for a text in it;
* `Plan.reach`: the positions where a match may end.
-/

namespace Estree.Regex

open Unicode (CodeSet)

/-- A place with respect to words. -/
inductive WordEdge where
  /-- Between a word character and something else. -/
  | boundary
  /-- Anywhere else. -/
  | inside
  /-- Where a word starts. -/
  | start
  /-- Where a word ends. -/
  | ending
  /-- Where no word character goes before. -/
  | startHalf
  /-- Where no word character follows. -/
  | endHalf
  deriving DecidableEq, Repr

/-- A condition on the surroundings of a position. -/
inductive Look where
  /-- The start of the text. -/
  | textStart
  /-- The end of the text. -/
  | textEnd
  /-- The start of a line; lines end with a line feed, or also with a carriage return. -/
  | lineStart (crlf : Bool)
  /-- The end of a line. -/
  | lineEnd (crlf : Bool)
  /-- A place with respect to words, which are made of the given characters. -/
  | word (edge : WordEdge) (characters : CodeSet)
  deriving DecidableEq, Repr

/-- A pattern. -/
inductive Pattern where
  /-- Nothing. -/
  | empty
  /-- One character of a set. -/
  | one (set : CodeSet)
  /-- A position. -/
  | look (l : Look)
  /-- One after the other. -/
  | seq (a b : Pattern)
  /-- One or the other. -/
  | alt (a b : Pattern)
  /-- Several times in a row, at least `least` times and at most `most` times. -/
  | repeat (p : Pattern) (least : Nat) (most : Option Nat)
  deriving Inhabited

/-- The pattern of some characters in a row. -/
def Pattern.text : List Nat → Pattern
  | [] => .empty
  | [c] => .one (.singleton c)
  | c :: rest => .seq (.one (.singleton c)) (text rest)

/-- The pattern of all texts that the given patterns describe from start to end, one after the
other. -/
def Pattern.whole (ps : List Pattern) : Pattern :=
  .seq (.look .textStart) (ps.foldr .seq (.look .textEnd))

/-! ### Conditions on positions -/

/-- Does a place with respect to words fit what is before it and after it? -/
def WordEdge.holds (before after : Bool) : WordEdge → Bool
  | boundary => before != after
  | inside => before == after
  | start => !before && after
  | ending => before && !after
  | startHalf => !before
  | endHalf => !after

/-- Does a condition hold between two characters, where `none` is the end of the text? -/
def Look.holds (before after : Option Char) : Look → Bool
  | textStart => before.isNone
  | textEnd => after.isNone
  | lineStart crlf =>
    match before with
    | none => true
    | some c => c = '\n' || (crlf && c = '\r' && after != some '\n')
  | lineEnd crlf =>
    match after with
    | none => true
    | some c =>
      if crlf then c = '\r' || (c = '\n' && before != some '\r') else c = '\n'
  | word edge characters =>
    let isWord (c : Option Char) : Bool := c.any fun c => characters.contains c.toNat
    edge.holds (isWord before) (isWord after)

/-! ### Sets of positions -/

/-- The positions in front of a character for which `test` holds; the first one is `position`. -/
def charPositions (test : Char → Bool) (position : Nat) : List Char → Nat
  | [] => 0
  | c :: rest =>
    (if test c then 1 <<< position else 0) ||| charPositions test (position + 1) rest

/-- The positions between two neighbours for which `test` holds, the ends of the text included. -/
def gapPositions (test : Option Char → Option Char → Bool) (position : Nat) (before : Option Char) :
    List Char → Nat
  | [] => if test before none then 1 <<< position else 0
  | c :: rest =>
    (if test before (some c) then 1 <<< position else 0)
      ||| gapPositions test (position + 1) (some c) rest

/-- A pattern for a known text. -/
inductive Plan where
  /-- Stay at a position if it is in the set. -/
  | stay (positions : Nat)
  /-- Pass the character after a position that is in the set. -/
  | move (positions : Nat)
  /-- One after the other. -/
  | seq (a b : Plan)
  /-- One or the other. -/
  | alt (a b : Plan)
  /-- Several times in a row. -/
  | repeat (p : Plan) (least : Nat) (most : Option Nat)

/-- A pattern with the sets of positions for a text in it. -/
def Pattern.plan (text : List Char) : Pattern → Plan
  | empty => .stay (1 <<< (text.length + 1) - 1)
  | one set => .move (charPositions (fun c => set.contains c.toNat) 0 text)
  | look l => .stay (gapPositions (fun a b => l.holds a b) 0 none text)
  | seq a b => .seq (a.plan text) (b.plan text)
  | alt a b => .alt (a.plan text) (b.plan text)
  | .repeat p least most => .repeat (p.plan text) least most

/-- Apply a function several times, but not any more once it changes nothing. -/
def iterate (f : Nat → Nat) : Nat → Nat → Nat
  | 0, s => s
  | n + 1, s =>
    let t := f s
    if t = s then s else iterate f n t

/-- The positions where a match may end that starts at one of `from`. A text has `count`
positions; going on more often than that leads nowhere new. -/
def Plan.reach (count : Nat) : Plan → Nat → Nat
  | stay positions, s => s &&& positions
  | move positions, s => (s &&& positions) <<< 1
  | seq a b, s => b.reach count (a.reach count s)
  | alt a b, s => a.reach count s ||| b.reach count s
  | .repeat p least most, s =>
    let more := (most.map (· - least)).getD count
    iterate (fun t => t ||| p.reach count t) more (iterate (p.reach count) least s)

/-- Does a text have a piece that the pattern describes? -/
def Pattern.isMatch (p : Pattern) (text : String) : Bool :=
  let cs := text.toList
  let count := cs.length + 1
  (p.plan cs).reach count (1 <<< count - 1) != 0

end Estree.Regex
