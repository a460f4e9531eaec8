import Estree.Progress.Report

/-!
# Shares of a whole

Several pieces of work that belong together are reported as one: each has a weight, and what is done
of the whole is the weighted mean of what is done of the pieces. The whole is over as soon as there
is a piece and all the pieces are over.

A report on one piece leads to reports on the whole. While one of those is delivered, whoever takes
it may look at the bookkeeping, so each of them comes with the bookkeeping as it is at that moment.

## Main definitions

* `Bookkeeping.fraction`: how much of the whole is done;
* `Bookkeeping.react`: what a report on a piece leads to.
-/

namespace Estree.Progress

open Quantity

/-- What is known of a piece of work. -/
structure Piece (α : Type) where
  /-- How much the piece counts. -/
  weight : α
  /-- How much of it has been done. -/
  worked : α
  /-- How much of it there is to do. -/
  total : α
  /-- Has it been reported to be over? -/
  done : Bool
  deriving DecidableEq, Repr, Inhabited

namespace Piece

variable {α : Type} [Quantity α]

/-- A piece that nothing has been reported on. -/
def fresh (weight : α) : Piece α := ⟨weight, zero, zero, false⟩

/-- How much of the piece is done, from zero to one. Without a total nothing is. -/
def share (p : Piece α) : α := if isZero p.total then zero else clamp (div p.worked p.total)

/-- The piece is over, and all of its work is done. -/
def finish (p : Piece α) : Piece α := { p with worked := p.total, done := true }

end Piece

/-- What is known of a whole. -/
structure Bookkeeping (α : Type) where
  /-- The pieces, in the order they were added. -/
  pieces : Array (Piece α) := #[]
  /-- How many of them are over. -/
  doneCount : Nat := 0
  /-- Has the whole been over? From then on nothing is reported. -/
  completed : Bool := false
  deriving Inhabited

/-- A report on a whole, and the bookkeeping at the moment it is delivered. -/
structure Emission (α : Type) where
  /-- The bookkeeping. -/
  seen : Bookkeeping α
  /-- The report. -/
  report : Report α

namespace Bookkeeping

variable {α : Type} [Quantity α]

/-- How much of the whole is done: the weighted mean of the shares. A piece without a total counts
as not begun. -/
def fraction (b : Bookkeeping α) : α :=
  let weight := Progress.total (b.pieces.toList.map Piece.weight)
  if isZero weight then zero
  else div (Progress.total (b.pieces.toList.map fun p => mul p.weight p.share)) weight

/-- A weight that can be used; in the place of any other one, the weight is one. -/
def validWeight (weight : α) : α := if isWeight weight then weight else one

/-- Add a piece. -/
def register (b : Bookkeeping α) (weight : α) : Bookkeeping α :=
  { b with pieces := b.pieces.push (.fresh (validWeight weight)) }

/-- Change a piece. -/
def modify (b : Bookkeeping α) (i : Nat) (f : Piece α → Piece α) : Bookkeeping α :=
  { b with pieces := b.pieces.modify i f }

/-- The report on how much of the whole is done, unless the whole is over. -/
def update (b : Bookkeeping α) : List (Emission α) :=
  if b.completed then [] else [⟨b, .worked b.fraction none⟩]

/-- The report on what is being worked on, unless the whole is over. -/
def announce (b : Bookkeeping α) (title : String) : List (Emission α) :=
  if b.completed then [] else [⟨b, .title title⟩]

/-- What the amount done of piece `i` leads to. -/
def setWorked (b : Bookkeeping α) (i : Nat) (amount : α) (title : Option String) :
    Bookkeeping α × List (Emission α) :=
  let b := b.modify i fun p => { p with worked := amount }
  (b, (title.map b.announce).getD [] ++ b.update)

/-- What the end of piece `i` leads to; a piece that is over already is left alone. -/
def finishPiece (b : Bookkeeping α) (i : Nat) (p : Piece α) : Bookkeeping α × List (Emission α) :=
  if p.done then (b, [])
  else
    let finished : Bookkeeping α :=
      { b.modify i Piece.finish with doneCount := b.doneCount + 1 }
    if finished.doneCount = finished.pieces.size && !finished.completed then
      let closed := { finished with completed := true }
      (closed, finished.update ++ [⟨closed, .done⟩])
    else (finished, finished.update)

/-- What a report on piece `i` leads to: the bookkeeping after it and the reports on the whole. -/
def react (b : Bookkeeping α) (i : Nat) (report : Report α) : Bookkeeping α × List (Emission α) :=
  match b.pieces[i]? with
  | none => (b, [])
  | some p =>
    match report with
    | .total amount =>
      let b := b.modify i fun p => { p with total := amount }
      (b, b.update)
    | .title text => (b, b.announce text)
    | .worked amount title => b.setWorked i amount title
    | .advance amount => b.setWorked i (add p.worked amount) none
    | .done => b.finishPiece i p

end Bookkeeping

end Estree.Progress
