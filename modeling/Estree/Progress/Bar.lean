import Estree.Progress.Report
import Estree.Styled

/-!
# A progress bar on one line

A bar shows a title and a percentage on a line that is drawn anew, from its start, when one of the
two has changed. When the work is over the line is ended. Whether a drawing reaches the screen makes
no difference to the bar.
-/

namespace Estree.Progress

open Quantity

/-- What a bar has been told and what it shows. -/
structure Bar (α : Type) where
  /-- How much work there is. -/
  total : α
  /-- How much has been done. -/
  worked : α
  /-- What is being worked on. -/
  title : String
  /-- The percentage and the title of the latest drawing. -/
  lastDrawn : Option (Nat × String)
  /-- Has the line been ended? -/
  finished : Bool
  deriving DecidableEq, Repr

variable {α : Type} [Quantity α]

/-- The whole hundredths of a share. -/
def hundredths (x : α) : Nat := wholePart (mul (clamp x) (ofNat 100))

namespace Bar

/-- How many cells the bar has. -/
def cells : Nat := 24

/-- The line of a title and a percentage: the cursor goes back to the start of the line first. -/
def drawing (percent : Nat) (title : String) : Styled :=
  let filled := percent * cells / 100
  let bar := String.ofList (List.replicate filled '#' ++ List.replicate (cells - filled) '.')
  let number := toString percent
  let blanks := String.ofList (List.replicate (3 - number.length) ' ')
  [.plain "\r"]
    ++ (if title.isEmpty then [] else [.styled { color := some .cyan } (title ++ " ")])
    ++ [.plain ("[" ++ bar ++ "] " ++ blanks ++ number ++ "%")]

/-- The end of the line. -/
def lineEnd : Styled := [.plain "\n"]

/-- A bar that has been told nothing. -/
def fresh : Bar α := ⟨zero, zero, "", none, false⟩

/-- The whole percents that are done; without a total there are none. -/
def percent (b : Bar α) : Nat :=
  if isPositive b.total then hundredths (div b.worked b.total) else 0

/-- Draw the line if it has changed. -/
def redraw (b : Bar α) : Bar α × List Styled :=
  let current := (b.percent, b.title)
  if b.finished || b.lastDrawn = some current then (b, [])
  else ({ b with lastDrawn := some current }, [drawing b.percent b.title])

/-- Take a report; gives what is to be written. -/
def receive (report : Report α) (b : Bar α) : Bar α × List Styled :=
  match report with
  | .total amount => redraw { b with total := amount }
  | .title text => redraw { b with title := text }
  | .worked amount title => redraw { b with worked := amount, title := title.getD b.title }
  | .advance amount => redraw { b with worked := add b.worked amount }
  | .done =>
    if b.finished then (b, [])
    else
      let (b, drawn) := redraw { b with worked := b.total }
      ({ b with finished := true }, drawn ++ [lineEnd])

end Bar

/-- Something that text is written to. -/
structure Screen where
  /-- What is written to it is kept under this name. -/
  name : String
  /-- Are colours written? -/
  colored : Bool
  /-- Does every attempt to write fail? -/
  broken : Bool
  /-- What has been written. -/
  written : String := ""

/-- Write to a screen. -/
def Screen.show (s : Screen) (text : Styled) : Screen :=
  if s.broken then s else { s with written := s.written ++ text.render s.colored }

end Estree.Progress
