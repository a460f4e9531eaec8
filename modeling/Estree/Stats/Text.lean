import Estree.Stats
import Estree.Styled

/-!
# Statistics as text
-/

namespace Estree

/-- Put a comma in front of every third digit from the right, but not in front of all. -/
def groupThousands : List Char → List Char
  | [] => []
  | [d] => [d]
  | d :: rest =>
    if rest.length % 3 = 0 then d :: ',' :: groupThousands rest else d :: groupThousands rest

/-- A number with commas between groups of three digits. -/
def formatNumber (n : Nat) : String := String.ofList (groupThousands (Nat.toDigits 10 n))

/-- Blanks that make up for what a text lacks in length. -/
def padding (width : Nat) (s : String) : String :=
  String.ofList (List.replicate (width - s.length) ' ')

/-- A text with blanks behind it. -/
def padRight (width : Nat) (s : String) : String := s ++ padding width s

/-- A text with blanks in front of it. -/
def padLeft (width : Nat) (s : String) : String := padding width s ++ s

namespace Stats

/-- The line of one kind. -/
def kindSpans (k : KindCount) : Styled :=
  [.plain "  ", .styled { color := some .cyan } (padRight 28 k.kind),
    .plain (padLeft 10 (formatNumber k.count) ++ "\n")]

/-- The figures as a small report. -/
def spans (s : Stats) : Styled :=
  [.styled { bold := true } "Node Statistics\n",
    .plain "───────────────\n",
    .plain ("Documents:    " ++ toString s.documents ++ "\n"),
    .plain ("Nodes:        " ++ formatNumber s.nodes ++ "\n"),
    .plain ("Max depth:    " ++ toString s.maxDepth ++ "\n")]
    ++ (if 0 < s.unknown then
        [.styled { color := some .yellow } ("Unknown:      " ++ toString s.unknown ++ "\n")]
      else [])
    ++ [.plain "\n"]
    ++ if s.byKind.isEmpty then []
      else [.styled { bold := true } "By Kind:\n"] ++ s.byKind.flatMap kindSpans

end Stats

end Estree
