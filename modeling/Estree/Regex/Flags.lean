import Estree.Regex.Escape
import Estree.Regex.Shape
import Estree.Unicode.Case

/-!
# Flags of search patterns

Flags change what the parts of a pattern mean from their place on: whether case counts, whether
lines count, and whether characters are those of Unicode or of ASCII only. A pattern whose matches
could end inside a character is refused.
-/

namespace Estree.Regex

open Unicode (CodeSet)

/-- The flags. -/
structure Flags where
  /-- Does case not count? -/
  ignoreCase : Bool := false
  /-- Do the ends of lines count as ends of the text? -/
  multiLine : Bool := false
  /-- Does a dot stand for the end of a line too? -/
  dotAll : Bool := false
  /-- Are characters those of Unicode? -/
  unicode : Bool := true
  /-- Does a carriage return end a line? -/
  crlf : Bool := false
  /-- Are blanks and comments passed over? -/
  extended : Bool := false
  /-- Is a shorter match preferred where a longer one would be? -/
  lazy : Bool := false
  deriving DecidableEq, Repr, Inhabited

/-- Set a flag, given by its letter. -/
def Flags.set? (f : Flags) (letter : Char) (value : Bool) : Option Flags :=
  match letter with
  | 'i' => some { f with ignoreCase := value }
  | 'm' => some { f with multiLine := value }
  | 's' => some { f with dotAll := value }
  | 'U' => some { f with lazy := value }
  | 'u' => some { f with unicode := value }
  | 'R' => some { f with crlf := value }
  | 'x' => some { f with extended := value }
  | _ => none

/-- Read flags up to a colon or a closing parenthesis, which is given along with what follows it.
Each flag may be there once, and so may the hyphen behind which flags are switched off; a hyphen is
not the last of them. -/
def readFlags (f : Flags) (seen : List Char) (on : Bool) : List Char →
    Except RegexFault (Flags × List Char × Char × List Char)
  | [] => malformed
  | c :: rest =>
    if c = ':' || c = ')' then
      if seen.head? = some '-' then malformed else .ok (f, seen, c, rest)
    else if seen.contains c then malformed
    else if c = '-' then readFlags f (c :: seen) false rest
    else
      match f.set? c on with
      | some f => readFlags f (c :: seen) on rest
      | none => malformed

namespace Flags

/-- What differs by case only is added if case does not count. -/
def fold (f : Flags) (s : CodeSet) : CodeSet :=
  if f.ignoreCase then if f.unicode then Unicode.foldCase s else Unicode.foldAsciiCase s else s

/-- A set or what is not in it, once case is taken into account. Without Unicode the complement
would hold bytes that are no characters. -/
def foldNegate (f : Flags) (negated : Bool) (s : CodeSet) : Except RegexFault CodeSet :=
  let s := f.fold s
  if !negated then .ok s else if f.unicode then .ok s.complement else malformed

/-- The ASCII characters of a class with a letter of its own. -/
def asciiClass : ShortClass → CodeSet
  | .digit => ⟨[(0x30, 0x39)]⟩
  | .space => ⟨[(0x09, 0x0D), (0x20, 0x20)]⟩
  | .word => ⟨[(0x30, 0x39), (0x41, 0x5A), (0x5F, 0x5F), (0x61, 0x7A)]⟩

/-- The characters of a class with a letter of its own. -/
def shortClass (f : Flags) (c : ShortClass) : CodeSet :=
  if f.unicode then
    match c with
    | .digit => Unicode.digits
    | .space => Unicode.blanks
    | .word => Unicode.wordCharacters
  else asciiClass c

/-- The characters of a class with a letter of its own, or all others. -/
def shortSet (f : Flags) (c : ShortClass) (negated : Bool) : Except RegexFault CodeSet :=
  let s := f.shortClass c
  if !negated then .ok s else if f.unicode then .ok s.complement else malformed

/-- The characters of a class with a name, or all others. Only Unicode has such classes. -/
def namedSet (f : Flags) (name : ClassName) (negated : Bool) : Except RegexFault CodeSet :=
  if !f.unicode then malformed
  else
    let found :=
      match name with
      | .single name => Unicode.setOfName? name
      | .pair property value => Unicode.setOfValue? property value
    match found with
    | none => malformed
    | some s => f.foldNegate negated s

/-- A byte beyond ASCII is a character only in Unicode. -/
def admits (f : Flags) (code : Nat) (raw : Bool) : Bool := f.unicode || !raw || code < 0x80

/-- The shape for one character of a set. -/
def one (f : Flags) (s : CodeSet) : Shape := .ofSet f.unicode s

/-- The shape for a character. -/
def literal (f : Flags) (code : Nat) (raw : Bool) : Except RegexFault Shape :=
  if f.admits code raw then .ok (f.one (f.fold (.singleton code))) else malformed

/-- The shape for a dot. -/
def dot (f : Flags) : Except RegexFault Shape :=
  if !f.unicode then malformed
  else
    let ends : CodeSet := if f.crlf then ⟨[(0x0A, 0x0A), (0x0D, 0x0D)]⟩ else .singleton 0x0A
    .ok (f.one (if f.dotAll then .full else ends.complement))

/-- The shape for the start of the text, or of a line. -/
def startLine (f : Flags) : Shape := .look (if f.multiLine then .lineStart f.crlf else .textStart)

/-- The shape for the end of the text, or of a line. -/
def endLine (f : Flags) : Shape := .look (if f.multiLine then .lineEnd f.crlf else .textEnd)

/-- The shape for a place. -/
def place (f : Flags) (p : Place) : Shape :=
  let word (edge : WordEdge) : Look := .word edge (f.shortClass .word)
  .look <|
    match p with
    | .textStart => .textStart
    | .textEnd => .textEnd
    | .boundary => word .boundary
    | .inside => word .inside
    | .wordStart => word .start
    | .wordEnd => word .ending
    | .wordStartHalf => word .startHalf
    | .wordEndHalf => word .endHalf

/-- The shape for an escape. -/
def atom (f : Flags) : Atom → Except RegexFault Shape
  | .literal code raw => f.literal code raw
  | .short c negated => (f.shortSet c negated).map f.one
  | .named name negated => (f.namedSet name negated).map f.one
  | .place p => .ok (f.place p)

end Flags

end Estree.Regex
