import Estree.Regex.Flags

/-!
# Classes in brackets

A class in brackets lists characters, ranges and other classes. Classes can be nested, and two lists
can be intersected, subtracted from each other, or compared for what is in one of them only; these
operations bind weaker than listing and are done from left to right.

The nesting depth of a class is kept, since it counts for the depth of the whole pattern.
-/

namespace Estree.Regex

open Unicode (CodeSet)

/-- A set of characters and the nesting depth of what it was written as. -/
structure Nested where
  /-- The characters. -/
  set : CodeSet
  /-- The nesting depth. -/
  height : Nat

/-- An operation on classes. -/
inductive SetOp where
  /-- What is in both. -/
  | inter
  /-- What is in the first only. -/
  | diff
  /-- What is in one of them only. -/
  | symmDiff
  deriving DecidableEq, Repr

/-- Do an operation on two sets. -/
def SetOp.apply : SetOp → CodeSet → CodeSet → CodeSet
  | inter => .inter
  | diff => .diff
  | symmDiff => .symmDiff

/-- A class whose closing bracket has not been read. -/
structure OpenClass where
  /-- Are all other characters meant? -/
  negated : Bool
  /-- An operation that waits for its second operand, with the first one. -/
  pending : Option (SetOp × Nested) := none
  /-- What is listed, the last item first. -/
  items : List Nested := []

namespace OpenClass

/-- List one more item. -/
def add (c : OpenClass) (item : Nested) : OpenClass := { c with items := item :: c.items }

/-- The list as a whole. -/
def list (c : OpenClass) : Nested :=
  match c.items with
  | [] => ⟨.empty, 0⟩
  | [item] => item
  | items => ⟨.unions (items.map Nested.set), (items.map Nested.height).foldl max 0 + 1⟩

/-- The list, or the result of the operation that waited for it. -/
def value (f : Flags) (c : OpenClass) : Nested :=
  match c.pending with
  | none => c.list
  | some (op, left) =>
    let right := c.list
    ⟨op.apply (f.fold left.set) (f.fold right.set), max left.height right.height + 1⟩

/-- What has been read becomes the first operand of an operation. -/
def operate (f : Flags) (c : OpenClass) (op : SetOp) : OpenClass where
  negated := c.negated
  pending := some (op, c.value f)

/-- The class as a whole. -/
def close (f : Flags) (c : OpenClass) : Except RegexFault Nested :=
  let inner := c.value f
  (f.foldNegate c.negated inner.set).map fun set => ⟨set, inner.height + 1⟩

end OpenClass

/-- A character as a class. Without Unicode only ASCII characters can be listed. -/
def characterSet (f : Flags) (code : Nat) : Except RegexFault CodeSet :=
  if f.unicode || code < 0x80 then .ok (.singleton code) else malformed

/-- The start of a class, after its opening bracket. Hyphens at the start are listed, and so is a
closing bracket that comes first. -/
def readClassStart (f : Flags) (cs : List Char) : Read OpenClass :=
  let chars := visible f.extended false cs
  let (negated, start, chars) :=
    match chars with
    | ('^', after) :: rest => (true, after, rest)
    | chars => (false, cs, chars)
  let hyphens := chars.takeWhile (·.1 = '-')
  let c : OpenClass :=
    { negated, items := hyphens.map fun _ => ⟨.singleton '-'.toNat, 0⟩ }
  match hyphens, chars with
  | [], (']', after) :: _ => .ok (c.add ⟨.singleton ']'.toNat, 0⟩, after)
  | _, _ => .ok (c, Visible.rest hyphens start)

/-- The characters of a class with a name in colons. -/
def asciiClass? : String → Option CodeSet
  | "alnum" => some ⟨[(0x30, 0x39), (0x41, 0x5A), (0x61, 0x7A)]⟩
  | "alpha" => some ⟨[(0x41, 0x5A), (0x61, 0x7A)]⟩
  | "ascii" => some ⟨[(0x00, 0x7F)]⟩
  | "blank" => some ⟨[(0x09, 0x09), (0x20, 0x20)]⟩
  | "cntrl" => some ⟨[(0x00, 0x1F), (0x7F, 0x7F)]⟩
  | "digit" => some ⟨[(0x30, 0x39)]⟩
  | "graph" => some ⟨[(0x21, 0x7E)]⟩
  | "lower" => some ⟨[(0x61, 0x7A)]⟩
  | "print" => some ⟨[(0x20, 0x7E)]⟩
  | "punct" => some ⟨[(0x21, 0x2F), (0x3A, 0x40), (0x5B, 0x60), (0x7B, 0x7E)]⟩
  | "space" => some ⟨[(0x09, 0x0D), (0x20, 0x20)]⟩
  | "upper" => some ⟨[(0x41, 0x5A)]⟩
  | "word" => some ⟨[(0x30, 0x39), (0x41, 0x5A), (0x5F, 0x5F), (0x61, 0x7A)]⟩
  | "xdigit" => some ⟨[(0x30, 0x39), (0x41, 0x46), (0x61, 0x66)]⟩
  | _ => none

/-- A class with a name in colons, after the bracket it starts with: its characters, whether all
others are meant, and what follows. -/
def readAsciiClass? (cs : List Char) : Option (CodeSet × Bool × List Char) :=
  let named (negated : Bool) (cs : List Char) : Option (CodeSet × Bool × List Char) :=
    let name := cs.takeWhile (· != ':')
    match cs.drop name.length with
    | ':' :: ']' :: after => (asciiClass? (String.ofList name)).map (·, negated, after)
    | _ => none
  match cs with
  | ':' :: '^' :: rest => named true rest
  | ':' :: rest => named false rest
  | _ => none

/-- The item that starts with `c` and goes on with `rest`. -/
def readClassAtom (f : Flags) (c : Char) (rest : List Char) : Read Atom :=
  if c = '\\' then readEscape f.extended rest else .ok (.literal c.toNat false, rest)

/-- The characters that an item stands for; a place stands for none. -/
def atomSet (f : Flags) : Atom → Except RegexFault CodeSet
  | .literal code _ => characterSet f code
  | .short c negated => f.shortSet c negated
  | .named name negated => f.namedSet name negated
  | .place _ => malformed

/-- A range of characters. -/
def rangeSet (f : Flags) : Atom → Atom → Except RegexFault CodeSet
  | .literal lo _, .literal hi _ =>
    if hi < lo || (!f.unicode && 0x80 ≤ hi) then malformed else .ok ⟨[(lo, hi)]⟩
  | _, _ => malformed

/-- The first character that is no blank. In front of it, the number sign of a comment counts as a
blank once. -/
def firstInk (inComment : Bool) : List Char → Option Char
  | [] => none
  | c :: rest =>
    if isBlank c then firstInk inComment rest
    else if c = '#' && !inComment then firstInk true rest
    else some c

/-- The character that decides on a hyphen, of which `cs` is what follows. -/
def afterHyphen (extended : Bool) (cs : List Char) : Option Char :=
  if extended then firstInk false cs <|> cs.head? else cs.head?

/-- The item or range that starts with `c` and goes on with `rest`. A hyphen makes a range unless a
closing bracket or another hyphen follows it. In extended patterns blanks may stand before these; a
comment is not passed over, but its first character takes the place of what follows it. -/
def readClassItem (f : Flags) (c : Char) (rest : List Char) :
    Except RegexFault (CodeSet × List Char) := do
  let (first, after) ← readClassAtom f c rest
  match visible f.extended false after with
  | ('-', following) :: chars =>
    let next := afterHyphen f.extended following
    if next = some ']' || next = some '-' then return (← atomSet f first, after)
    else
      match chars with
      | [] => malformed
      | (d, rest) :: _ =>
        let (last, after) ← readClassAtom f d rest
        return (← rangeSet f first last, after)
  | _ => return (← atomSet f first, after)

/-- The number of characters of a comment that are left, up to the end of its line. -/
def commentLength (rest : List Char) : Nat := (rest.takeWhile (· != '\n')).length + 1

/-- How many characters of `rest` have been read when `after` follows. -/
def consumed (rest after : List Char) : Nat := rest.length - after.length

/-- Read a class up to its closing bracket. The first `skip` characters have been read; `current` is
the innermost class that is open, and `outer` are the ones around it. -/
def readClass (f : Flags) (skip : Nat) (current : OpenClass) (outer : List OpenClass) :
    List Char → Read Nested
  | [] => malformed
  | c :: rest =>
    match skip with
    | skip + 1 => readClass f skip current outer rest
    | 0 =>
      if f.extended && isBlank c then readClass f 0 current outer rest
      else if f.extended && c = '#' then readClass f (commentLength rest) current outer rest
      else if c = '[' then
        match readAsciiClass? rest with
        | some (set, negated, after) =>
          match f.foldNegate negated set with
          | .error e => .error e
          | .ok set => readClass f (consumed rest after) (current.add ⟨set, 0⟩) outer rest
        | none =>
          match readClassStart f rest with
          | .error e => .error e
          | .ok (inner, after) => readClass f (consumed rest after) inner (current :: outer) rest
      else if c = ']' then
        match current.close f, outer with
        | .error e, _ => .error e
        | .ok whole, [] => .ok (whole, rest)
        | .ok whole, parent :: outer => readClass f 0 (parent.add whole) outer rest
      else if c = '&' && rest.head? = some '&' then
        readClass f 1 (current.operate f .inter) outer rest
      else if c = '-' && rest.head? = some '-' then
        readClass f 1 (current.operate f .diff) outer rest
      else if c = '~' && rest.head? = some '~' then
        readClass f 1 (current.operate f .symmDiff) outer rest
      else
        match readClassItem f c rest with
        | .error e => .error e
        | .ok (set, after) => readClass f (consumed rest after) (current.add ⟨set, 0⟩) outer rest

end Estree.Regex
