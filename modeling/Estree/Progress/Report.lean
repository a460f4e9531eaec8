import Estree.Progress.Quantity

/-!
# Progress reports

Whoever does some work reports on it, and asks from time to time whether to stop. A `Receiver` is
what it reports to.
-/

namespace Estree.Progress

/-- A report on some work. -/
inductive Report (α : Type) where
  /-- How much work there is. -/
  | total (amount : α)
  /-- What is being worked on. -/
  | title (text : String)
  /-- How much has been done in all, and perhaps what is being worked on. -/
  | worked (amount : α) (title : Option String)
  /-- How much has been done since the last report. -/
  | advance (amount : α)
  /-- The work is over. -/
  | done
  deriving DecidableEq, Repr

/-- One unit has been done. -/
def Report.tick {α : Type} [Quantity α] : Report α := .advance Quantity.one

/-- Something with states `σ` that takes reports and may ask to stop. -/
structure Receiver (α σ : Type) where
  /-- Take a report. -/
  receive : Report α → σ → σ
  /-- Is the work to be stopped? -/
  isCanceled : σ → Bool

/-- The receiver that ignores all reports and never asks to stop. -/
def Receiver.silent {α : Type} : Receiver α Unit where
  receive _ _ := ()
  isCanceled _ := false

end Estree.Progress
