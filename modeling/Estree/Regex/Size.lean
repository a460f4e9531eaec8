import Std.Data.HashMap
import Estree.Regex.ByteSequence
import Estree.Regex.Shape

/-!
# The size of search patterns

A pattern is refused if one of two automata for it would take too much memory: one that reads a text
byte by byte from front to back and keeps track of groups, and one that reads it backwards and does
not. The automata are never made; their states are only counted, in the order in which they would be
made.

The order matters for sets of characters. The bytes of their characters have fronts and ends in
common, which are made once as long as they are remembered, and what is remembered depends on the
numbers of the states.

## Main definitions

* `Blueprint`: what an automaton is made of, in order;
* `Blueprint.build`: how large the automaton becomes;
* `Shape.fits`: is a pattern small enough?
-/

namespace Estree.Regex

open Unicode (CodeSet)

/-! ### Blueprints -/

/-- In which direction an automaton reads a text. -/
inductive Direction where
  /-- From front to back. -/
  | forward
  /-- From back to front. -/
  | backward
  deriving DecidableEq, Repr

/-- How large an automaton is. -/
structure Extent where
  /-- The number of its states. -/
  states : Nat := 0
  /-- The memory that states take beside what every state takes. -/
  extra : Nat := 0
  deriving DecidableEq, Repr, Inhabited

namespace Extent

/-- Both together. -/
protected def add (a b : Extent) : Extent := ⟨a.states + b.states, a.extra + b.extra⟩

instance : Add Extent := ⟨Extent.add⟩

/-- The memory in bytes. -/
def bytes (e : Extent) : Nat := 32 * e.states + e.extra

/-- What an automaton may take. -/
def limit : Nat := 10 <<< 20

/-- Is that too large? -/
def isTooLarge (e : Extent) : Bool := limit < e.bytes

/-- States without anything beside. -/
def plain (states : Nat) : Extent := ⟨states, 0⟩

/-- A state that goes on to several others. -/
def fork (ways : Nat) : Extent := ⟨1, 4 * ways⟩

/-- A state that reads a byte of one of some ranges. -/
def choice (ranges : Nat) : Extent := ⟨1, 8 * ranges⟩

end Extent

/-- What an automaton is made of, in the order in which it is made. -/
inductive Blueprint where
  /-- Some states. -/
  | fixed (e : Extent)
  /-- The states for a set of characters with the given bytes. -/
  | set (sequences : List (List (Nat × Nat)))
  /-- One after the other. -/
  | seq (a b : Blueprint)
  /-- The same several times. -/
  | times (n : Nat) (a : Blueprint)
  deriving Inhabited

namespace Blueprint

/-- Nothing. -/
def nothing : Blueprint := .fixed {}

/-- A state. -/
def state : Blueprint := .fixed (.plain 1)

/-- A state with two ways. -/
def fork : Blueprint := .fixed (.fork 2)

/-- One after the other. -/
def row (parts : List Blueprint) : Blueprint := parts.foldr seq nothing

end Blueprint

/-! ### Choices between texts -/

/-- The texts that start with the same byte, without it, for each byte that one starts with; empty
texts are left out. -/
def groupByByte (texts : List (List Nat)) : List (List (List Nat)) :=
  let sorted := (texts.filter fun t => !t.isEmpty).mergeSort fun a b => a.headD 0 ≤ b.headD 0
  (sorted.splitBy fun a b => a.head? == b.head?).map (·.map List.tail)

/-- Cut a list of texts behind each empty one, which goes before the texts that it is preferred to.
An empty text at the start of the list is not cut off again by another one as long as no other text
has come. -/
def cutAtEmpty (texts : List (List Nat)) : List (List (List Nat)) :=
  let (last, before) := texts.foldl (fun (current, done) t =>
    if !t.isEmpty then (t :: current, done)
    else if current.isEmpty && done.all List.isEmpty && !done.isEmpty then (current, done)
    else ([], current.reverse :: done)) ([], [])
  (last.reverse :: before).reverse

/-- The extent of a choice between texts, made as a tree in which texts share the bytes they start
with; no text is longer than `depth`. -/
def textTree : Nat → List (List Nat) → Extent
  | 0, _ => {}
  | depth + 1, texts =>
    if texts.all List.isEmpty then {}
    else
      let chunks := (cutAtEmpty texts).map groupByByte
      let read := chunks.filter fun chunk => !chunk.isEmpty
      let readers := read.map fun chunk =>
        if chunk.length = 1 then Extent.plain 1 else .choice chunk.length
      let below := read.flatMap fun chunk => chunk.map (textTree depth)
      (readers ++ below).foldl (· + ·) (.fork (read.length + chunks.length - 1))

/-- The blueprint of a choice between texts. -/
def Blueprint.ofTexts (texts : List (List Nat)) : Blueprint :=
  .fixed (.plain 1 + textTree ((texts.map List.length).foldl max 0 + 1) texts)

/-! ### Blueprints of shapes -/

/-- The bytes of a text in the order in which they are read. -/
def bytesIn (d : Direction) (codes : List Nat) : List Nat :=
  let bytes := codes.flatMap utf8Bytes
  match d with
  | .forward => bytes
  | .backward => bytes.reverse

/-- The blueprint of a set. -/
def Blueprint.ofSet (s : CodeSet) : Blueprint :=
  if s.ranges.all (·.2 < 0x80) then .row [state, .fixed (.choice s.ranges.length)]
  else .set (byteSequences s)

/-- The blueprint for several times in a row. Without an upper limit, a part that may be empty takes
more if it need not be there. -/
def Blueprint.repeated (part : Blueprint) (mayBeEmpty : Bool) (least : Nat) (most : Option Nat) :
    Blueprint :=
  match least, most with
  | 0, some 1 => .row [fork, part, state]
  | 0, none => if mayBeEmpty then .row [part, fork, fork, state] else .row [fork, part]
  | _, none => .row [.times least part, fork]
  | _, some most =>
    let needed := if least = 0 then state else .times least part
    if least = most then needed
    else .row [needed, state, .times (most - least) (.row [fork, part])]

namespace Shape

/-- The blueprint of a choice, of which the blueprints of the branches are given. -/
def joinBranches (d : Direction) (s : Shape) (parts : List Blueprint) : Blueprint :=
  match s.branches.mapM text?, parts with
  | some (a :: b :: rest), _ => .ofTexts ((a :: b :: rest).map (bytesIn d))
  | _, a :: b :: rest =>
    .row ([a, b, .fixed (.fork parts.length), .state] ++ rest)
  | _, parts => .row parts

/-- The blueprints of the branches of a shape. -/
def branchBlueprints (d : Direction) : Shape → List Blueprint
  | empty | look _ => [.state]
  | literal codes => [.fixed (.plain (bytesIn d codes).length)]
  | set _ s => [.ofSet s]
  | .repeat s least most _ =>
    let part := s.joinBranches d (s.branchBlueprints d)
    [part.repeated (s.leastLength?.getD 0 = 0) least most]
  | group _ s =>
    let inner := s.joinBranches d (s.branchBlueprints d)
    match d with
    | .forward => [.row [.state, inner, .state]]
    | .backward => [inner]
  | seq a b =>
    let first := a.joinBranches d (a.branchBlueprints d)
    let second := b.joinBranches d (b.branchBlueprints d)
    match d with
    | .forward => [.seq first second]
    | .backward => [.seq second first]
  | alt a b => a.joinBranches d (a.branchBlueprints d) :: b.branchBlueprints d

/-- The blueprint of an automaton for a pattern. Unless the pattern is bound to the place where the
automaton starts, other bytes may be read before it. -/
def blueprint (d : Direction) (s : Shape) : Blueprint :=
  let isBound :=
    match d with
    | .forward => s.startsText
    | .backward => s.endsText
  let start := if isBound then Extent.plain 1 else .fork 2 + .plain 1 + .choice 1
  let body := s.joinBranches d (s.branchBlueprints d)
  match d with
  | .forward => .row [.fixed (start + .plain 1), body, .fixed (.plain 2)]
  | .backward => .row [.fixed start, body, .state]

end Shape

/-! ### Building -/

/-- The states of a set that are remembered, by bucket; each was made for a key. -/
abbrev Remembered := Std.HashMap Nat (List Nat × Nat)

/-- An automaton while the states of a set are made. -/
structure SetBuild where
  /-- How large it is. -/
  extent : Extent
  /-- What is remembered. -/
  remembered : Remembered := {}

/-- A number for some numbers, which decides on the bucket. -/
def bucketOf (buckets : Nat) (key : List Nat) : Nat :=
  let start : UInt64 := 0xCBF29CE484222325
  (key.foldl (fun h n => (h ^^^ n.toUInt64) * 0x100000001B3) start).toNat % buckets

namespace SetBuild

/-- The state for a key: the one that is remembered, or a new one, which takes the place of another
in its bucket. -/
def stateFor (buckets : Nat) (new : Extent) (key : List Nat) : StateM SetBuild Nat := do
  let b ← get
  let bucket := bucketOf buckets key
  match b.remembered[bucket]? with
  | some (known, state) => if known = key then return state else make b bucket
  | none => make b bucket
where
  /-- Make a new state. -/
  make (b : SetBuild) (bucket : Nat) : StateM SetBuild Nat := do
    let state := b.extent.states
    set { b with
      extent := b.extent + new
      remembered := b.remembered.insert bucket (key, state) : SetBuild }
    return state

/-- The states that read some sequences of `depth` bytes at most and then go on to `last`; gives the
first of them. The ends that sequences have in common are made once. -/
def forward (last : Nat) : Nat → List (List (Nat × Nat)) → StateM SetBuild Nat
  | 0, _ => return last
  | depth + 1, sequences =>
    if sequences.all List.isEmpty then return last
    else do
      let ways ← (sequences.splitBy fun a b => a.head? == b.head?).mapM fun sequences => do
        let next ← forward last depth (sequences.map List.tail)
        let (lo, hi) := (sequences.head?.bind List.head?).getD (0, 0)
        return [lo, hi, next]
      stateFor 10000 (.choice ways.length) ways.flatten

/-- The states that read some sequences of bytes backwards and then go on to `last`. The starts that
sequences have in common are made once. -/
def backward (last : Nat) (sequences : List (List (Nat × Nat))) : StateM SetBuild Unit :=
  sequences.forM fun sequence => do
    let _ ← sequence.foldlM (fun next r => stateFor 1000 (.plain 1) [next, r.1, r.2]) last

end SetBuild

namespace Blueprint

/-- Add the states for a set of characters. Characters have four bytes at most. -/
def buildSet (d : Direction) (sequences : List (List (Nat × Nat))) (e : Extent) : Extent :=
  match d with
  | .forward => ((SetBuild.forward e.states 4 sequences).run ⟨e + .plain 1, {}⟩).2.extent
  | .backward =>
    let first := e + .fork sequences.length
    ((SetBuild.backward first.states sequences).run ⟨first + .plain 1, {}⟩).2.extent

/-- Add the same several times, but nothing any more once the whole is too large. -/
def buildTimes (add : Extent → Extent) : Nat → Extent → Extent
  | 0, e => e
  | n + 1, e => if e.isTooLarge then e else buildTimes add n (add e)

/-- Add what a blueprint lists. -/
def build (d : Direction) : Blueprint → Extent → Extent
  | fixed new, e => e + new
  | set sequences, e => buildSet d sequences e
  | seq a b, e => b.build d (a.build d e)
  | times n a, e => buildTimes (a.build d) n e

end Blueprint

/-- The number of texts from which on a choice between them is made in another way, which has no
limit. -/
def textLimit : Nat := 3000

/-- Is the pattern a choice between so many texts? -/
def Shape.isWordList (s : Shape) : Bool :=
  textLimit ≤ s.branches.length && s.branches.all (·.text?.isSome)

/-- Is the pattern small enough? -/
def Shape.fits (s : Shape) : Bool :=
  s.isWordList ||
    [Direction.backward, .forward].all fun d => !((s.blueprint d).build d {}).isTooLarge

end Estree.Regex
