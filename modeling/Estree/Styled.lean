/-!
# Text with colours

A styled text is a list of spans. It can be written with the escape sequences that terminals
understand, or plain; the words are the same in both.
-/

namespace Estree

/-- The colours that are used. -/
inductive Color where
  | green | yellow | blue | magenta | cyan
  deriving DecidableEq, Repr

/-- The parameter of the escape sequence that selects a colour. -/
def Color.code : Color → String
  | .green => "32"
  | .yellow => "33"
  | .blue => "34"
  | .magenta => "35"
  | .cyan => "36"

/-- How a span looks. -/
structure Style where
  /-- The colour of the letters. -/
  color : Option Color := none
  /-- Are the letters bold? -/
  bold : Bool := false
  /-- Are the letters dimmed? -/
  dimmed : Bool := false
  deriving DecidableEq, Repr

/-- An escape sequence with one parameter. -/
def escapeSequence (parameter : String) : String := "\x1b[" ++ parameter ++ "m"

/-- The escape sequence that undoes all others. -/
def resetSequence : String := escapeSequence "0"

/-- The escape sequences that switch a style on, whatever was on before. -/
def Style.sequence (s : Style) : String :=
  resetSequence ++ (if s.bold then escapeSequence "1" else "")
    ++ (if s.dimmed then escapeSequence "2" else "")
    ++ (s.color.map fun c => escapeSequence c.code).getD ""

/-- A piece of text. -/
inductive Span where
  /-- A piece without a style. -/
  | plain (text : String)
  /-- A piece with a style. -/
  | styled (style : Style) (text : String)
  deriving DecidableEq, Repr

/-- A text in pieces. -/
abbrev Styled := List Span

/-- The words of a span. -/
def Span.words : Span → String
  | plain text => text
  | styled _ text => text

/-- A span with its style switched on in front and off behind. -/
def Span.colored : Span → String
  | plain text => text
  | styled style text => style.sequence ++ text ++ resetSequence

namespace Styled

/-- Write a text, with escape sequences or plain. -/
def render (colored : Bool) (t : Styled) : String :=
  t.foldl (fun out span => out ++ if colored then span.colored else span.words) ""

end Styled

end Estree
