import Estree.Progress.Report

/-!
# Recorded progress

A recording keeps every report. It can be told to ask for a stop after a number of advances.
-/

namespace Estree.Progress

open Quantity

/-- The reports that have been made. -/
structure Recording (α : Type) where
  /-- The total reported last. -/
  total : Option α := none
  /-- The amounts that had been done after each report on them, the first one first. -/
  history : Array α := #[]
  /-- The titles, the first one first. -/
  titles : Array String := #[]
  /-- How often the work was reported to be over. -/
  doneCount : Nat := 0
  /-- How many advances were reported. -/
  ticks : Nat := 0
  /-- The number of advances after which a stop is asked for. -/
  cancelAfter : Option Nat := none
  /-- Has a stop been asked for? -/
  canceled : Bool := false
  deriving Inhabited

namespace Recording

variable {α : Type}

/-- The amount done last. -/
def last? (r : Recording α) : Option α := r.history.back?

/-- Ask for a stop. -/
def cancel (r : Recording α) : Recording α := { r with canceled := true }

/-- Keep a report. -/
def receive [Quantity α] (report : Report α) (r : Recording α) : Recording α :=
  match report with
  | .total amount => { r with total := some amount }
  | .title text => { r with titles := r.titles.push text }
  | .worked amount title =>
    { r with
      history := r.history.push amount
      titles := (title.map r.titles.push).getD r.titles }
  | .advance amount =>
    let ticks := r.ticks + 1
    { r with
      history := r.history.push (add (r.last?.getD zero) amount)
      ticks
      canceled := r.canceled || r.cancelAfter.any (· ≤ ticks) }
  | .done => { r with doneCount := r.doneCount + 1 }

/-- Recording as a receiver of reports. -/
def receiver [Quantity α] : Receiver α (Recording α) where
  receive := receive
  isCanceled := canceled

end Recording

end Estree.Progress
