import Estree.Regex.Bracket
import Estree.Regex.Size

/-!
# Reading search patterns

A pattern is read from left to right. The groups that are open are kept on a stack, each with the
branches and items read so far, and each group has the flags it started with restored at its end.

## Main definitions

* `Builder.step`: read what starts with one character;
* `Regex.compile`: the pattern of a text, or why it is refused.
-/

namespace Estree.Regex

/-- A part of a pattern that has been read. -/
structure Piece where
  /-- Its shape. -/
  shape : Shape
  /-- How deep it is nested. -/
  height : Nat
  /-- Can it be repeated? Flags cannot. -/
  repeatable : Bool := true
  deriving Inhabited

/-- A group that is open, or the whole pattern. -/
structure Level where
  /-- The number of the group, if it is counted. -/
  number : Option Nat := none
  /-- The items of the current branch, the last one first. -/
  items : List Piece := []
  /-- The branches before it, the last one first. -/
  branches : List Piece := []
  /-- The flags to be restored at the end. -/
  outerFlags : Flags := {}

/-- The largest nesting depth. -/
def heightLimit : Nat := 250

/-- Join several pieces, the last one first, to one that is nested one deeper; one alone stays as it
is. -/
def joinPieces (join : List Shape → Shape) : List Piece → Piece
  | [] => ⟨.empty, 0, true⟩
  | [p] => p
  | ps => ⟨join (ps.map Piece.shape).reverse, (ps.map Piece.height).foldl max 0 + 1, true⟩

namespace Level

/-- The current branch as a whole. -/
def branch (l : Level) : Piece := joinPieces .row l.items

/-- All branches as a whole. -/
def whole (l : Level) : Piece := joinPieces .choice (l.branch :: l.branches)

/-- The group as a piece of what is around it. -/
def asPiece (l : Level) : Piece :=
  let inner := l.whole
  let shape := (l.number.map fun n => Shape.group n inner.shape).getD inner.shape
  ⟨shape, inner.height + 1, true⟩

/-- Add an item. -/
def add (l : Level) (p : Piece) : Level := { l with items := p :: l.items }

/-- Start a new branch. -/
def nextBranch (l : Level) : Level := { l with items := [], branches := l.branch :: l.branches }

end Level

/-- A pattern that is being read. -/
structure Builder where
  /-- The flags at this place. -/
  flags : Flags := {}
  /-- The innermost open group. -/
  level : Level := {}
  /-- The groups around it. -/
  outer : List Level := []
  /-- The names that groups have. -/
  names : List String := []
  /-- The number of groups that are counted. -/
  groups : Nat := 0

namespace Builder

/-- Add a shape without parts. -/
def add (b : Builder) (s : Shape) : Builder := { b with level := b.level.add ⟨s, 0, true⟩ }

/-- Open a group that is not counted, inside which the given flags hold. -/
def openGroup (b : Builder) (flags : Flags) : Builder :=
  { b with flags, level := { outerFlags := b.flags }, outer := b.level :: b.outer }

/-- Open a group that is counted. -/
def openCounted (b : Builder) : Builder :=
  let number := b.groups + 1
  { b with
    groups := number
    level := { number := some number, outerFlags := b.flags }
    outer := b.level :: b.outer }

/-- Close the innermost group. -/
def closeGroup (b : Builder) : Except RegexFault Builder :=
  match b.outer with
  | [] => malformed
  | parent :: outer =>
    .ok { b with flags := b.level.outerFlags, level := parent.add b.level.asPiece, outer }

/-- Repeat the last item; `isLazy` tells whether a question mark follows, which turns the preference
between longer and shorter matches round. -/
def quantify (b : Builder) (least : Nat) (most : Option Nat) (isLazy : Bool) :
    Except RegexFault Builder :=
  match b.level.items with
  | [] => malformed
  | p :: rest =>
    if p.repeatable then
      let repeated : Piece :=
        ⟨p.shape.times least most (isLazy == b.flags.lazy), p.height + 1, true⟩
      .ok { b with level := { b.level with items := repeated :: rest } }
    else malformed

/-- May a character stand in the name of a group? -/
def isNameChar (first : Bool) (c : Char) : Bool :=
  c = '_' ||
    if first then Unicode.letters.contains c.toNat
    else c = '.' || c = '[' || c = ']' || Unicode.alphanumerics.contains c.toNat

/-- Is this a name for a group? -/
def isName (name : List Char) : Bool :=
  match name with
  | [] => false
  | c :: rest => isNameChar true c && rest.all (isNameChar false)

/-- Open a group whose name follows. -/
def openNamed (b : Builder) (cs : List Char) : Read Builder :=
  let name := cs.takeWhile (· != '>')
  match cs.drop name.length with
  | [] => malformed
  | _ :: after =>
    let text := String.ofList name
    if isName name && !b.names.contains text then
      .ok ({ b.openCounted with names := text :: b.names }, after)
    else malformed

/-- Read what follows an opening parenthesis: a question mark goes before a name, before flags for
the group, and before flags for the rest of the group around it. -/
def readGroup (b : Builder) (cs : List Char) : Read Builder :=
  let start :=
    match visible b.flags.extended false cs with
    | [] => []
    | (c, rest) :: _ => c :: rest
  match start with
  | '?' :: '=' :: _ | '?' :: '!' :: _ | '?' :: '<' :: '=' :: _ | '?' :: '<' :: '!' :: _ => malformed
  | '?' :: 'P' :: '<' :: rest => b.openNamed rest
  | '?' :: '<' :: rest => b.openNamed rest
  | '?' :: rest =>
    match readFlags b.flags [] true rest with
    | .error e => .error e
    | .ok (flags, seen, stop, after) =>
      if stop = ':' then .ok (b.openGroup flags, after)
      else if seen.isEmpty then malformed
      else .ok ({ b with flags, level := b.level.add ⟨.empty, 0, false⟩ }, after)
  | start => .ok (b.openCounted, start)

/-- A decimal number between blanks. -/
def readDecimal? (chars : Visible) : Option (Nat × Visible) :=
  let chars := chars.dropWhile fun v => isBlank v.1
  let digits := chars.takeWhile fun v => v.1.isDigit
  let value := digits.foldl (fun n v => n * 10 + (v.1.toNat - 48)) 0
  if digits.isEmpty || 1 <<< 32 ≤ value then none
  else some (value, (chars.drop digits.length).dropWhile fun v => isBlank v.1)

/-- How often something is repeated, after the opening brace. -/
def readCount (extended : Bool) (cs : List Char) : Read (Nat × Option Nat) :=
  match readDecimal? (visible extended false cs) with
  | some (least, ('\x7d', after) :: _) => .ok ((least, some least), after)
  | some (least, (',', _) :: ('\x7d', after) :: _) => .ok ((least, none), after)
  | some (least, (',', _) :: chars) =>
    match readDecimal? chars with
    | some (most, ('\x7d', after) :: _) =>
      if least ≤ most then .ok ((least, some most), after) else malformed
    | _ => malformed
  | _ => malformed

/-- A question mark after a repetition, and what follows. -/
def takeLazy : List Char → Bool × List Char
  | '?' :: rest => (true, rest)
  | rest => (false, rest)

/-- A question mark after a counted repetition; blanks in front of it are passed over. -/
def takeLazyVisible (extended : Bool) (cs : List Char) : Bool × List Char :=
  match visible extended false cs with
  | ('?', after) :: _ => (true, after)
  | _ => (false, cs)

/-- Repeat the last item, where `rest` follows. -/
def readRepeat (b : Builder) (least : Nat) (most : Option Nat) (rest : List Char) : Read Builder :=
  let (isLazy, rest) := takeLazy rest
  (b.quantify least most isLazy).map (·, rest)

/-- Read what starts with `c` and goes on with `rest`. -/
def step (b : Builder) (c : Char) (rest : List Char) : Read Builder :=
  let f := b.flags
  if f.extended && isBlank c then .ok (b, rest)
  else if f.extended && c = '#' then .ok (b, rest.drop (commentLength rest))
  else
    match c with
    | '(' => b.readGroup rest
    | ')' => b.closeGroup.map (·, rest)
    | '|' => .ok ({ b with level := b.level.nextBranch }, rest)
    | '[' =>
      match readClassStart f rest with
      | .error e => .error e
      | .ok (start, after) =>
        (readClass f 0 start [] after).map fun (whole, after) =>
          ({ b with level := b.level.add ⟨f.one whole.set, whole.height, true⟩ }, after)
    | '?' => b.readRepeat 0 (some 1) rest
    | '*' => b.readRepeat 0 none rest
    | '+' => b.readRepeat 1 none rest
    | '\x7b' =>
      match readCount f.extended rest with
      | .error e => .error e
      | .ok ((least, most), after) =>
        let (isLazy, after) := takeLazyVisible f.extended after
        (b.quantify least most isLazy).map (·, after)
    | '\\' =>
      match readEscape f.extended rest with
      | .error e => .error e
      | .ok (atom, after) => (f.atom atom).map fun p => (b.add p, after)
    | '.' => f.dot.map fun p => (b.add p, rest)
    | '^' => .ok (b.add f.startLine, rest)
    | '$' => .ok (b.add f.endLine, rest)
    | c => (f.literal c.toNat false).map fun p => (b.add p, rest)

/-- Read a pattern; the first `skip` characters have been read. -/
def read (skip : Nat) (b : Builder) : List Char → Except RegexFault Builder
  | [] => .ok b
  | c :: rest =>
    match skip with
    | skip + 1 => read skip b rest
    | 0 =>
      match b.step c rest with
      | .error e => .error e
      | .ok (b, after) => read (consumed rest after) b rest

end Builder

/-- The pattern of a text, or why it is refused. -/
def compile (text : String) : Except RegexFault Pattern := do
  let b ← Builder.read 0 {} text.toList
  let whole := b.level.whole
  if !b.outer.isEmpty || heightLimit < whole.height then throw .malformed
  if !whole.shape.fits then throw .tooLarge
  return whole.shape.pattern

end Estree.Regex
