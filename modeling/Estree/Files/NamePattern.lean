import Estree.Error
import Estree.Regex.Pattern

/-!
# Patterns for names

In a name pattern a question mark stands for one character, a star for any characters, and brackets
for one of the characters listed in them, or, with an exclamation mark in front, for any other one.
Two stars stand for folders and have to be a component of their own. Everything else stands for
itself, and a slash is a character like any other.

## Main definitions

* `NamePattern.ofText`: read a pattern, or tell what is wrong and where;
* `NamePattern.covers`: the names it applies to.
-/

namespace Estree.Files

open Unicode (CodeSet)

/-- A part of a name pattern. -/
inductive NamePart where
  /-- A character that stands for itself. -/
  | character (c : Char)
  /-- Any one character. -/
  | anyOne
  /-- Any characters. -/
  | anyRun
  /-- Any folders, or all that is left. -/
  | folders
  /-- One character of a set. -/
  | oneOf (set : CodeSet)

/-- Where a pattern is wrong, and why. -/
abbrev GlobError := Nat × GlobFault

namespace NamePart

/-- The text between brackets that starts here. Its first character may be a closing bracket. -/
def bracketText? : List Char → Option (List Char)
  | [] => none
  | c :: rest => if rest.contains ']' then some (c :: rest.takeWhile (· != ']')) else none

/-- The ranges of characters in the text between brackets. -/
def ranges : List Char → List (Nat × Nat)
  | lo :: '-' :: hi :: rest => (lo.toNat, hi.toNat) :: ranges rest
  | c :: rest => (c.toNat, c.toNat) :: ranges rest
  | [] => []

/-- The part that an opening bracket starts, and how many characters it has after that bracket. -/
def bracket? (rest : List Char) : Option (NamePart × Nat) :=
  let listed (text : List Char) := CodeSet.ofRanges (ranges text)
  match rest with
  | '!' :: rest =>
    (bracketText? rest).map fun text => (oneOf (listed text).complement, text.length + 2)
  | rest => (bracketText? rest).map fun text => (oneOf (listed text), text.length + 1)

/-- The part that a star starts, and how many characters it has after that star. The character
before the star is `before`. -/
def star (position : Nat) (before : Option Char) (rest : List Char) :
    Except GlobError (NamePart × Nat) :=
  match rest with
  | '*' :: '*' :: _ => .error (position + 2, .starRun)
  | '*' :: after =>
    if before.all (· = '/') then
      match after with
      | [] => .ok (folders, 1)
      | '/' :: _ => .ok (folders, 2)
      | _ => .error (position + 2, .partialComponent)
    else .error (position - 1, .partialComponent)
  | _ => .ok (anyRun, 0)

/-- The part that starts with `c`, and how many characters it has after that. -/
def read (position : Nat) (before : Option Char) (c : Char) (rest : List Char) :
    Except GlobError (NamePart × Nat) :=
  match c with
  | '?' => .ok (anyOne, 0)
  | '*' => star position before rest
  | '[' => ((bracket? rest).map .ok).getD (.error (position, .invalidRange))
  | c => .ok (character c, 0)

/-- The parts of a pattern; the first `skip` characters belong to a part that has been read. -/
def readAll (skip position : Nat) (before : Option Char) :
    List Char → Except GlobError (List NamePart)
  | [] => .ok []
  | c :: rest =>
    match skip with
    | skip + 1 => readAll skip (position + 1) (some c) rest
    | 0 =>
      match read position before c rest with
      | .error e => .error e
      | .ok (part, more) => (readAll more (position + 1) (some c) rest).map (part :: ·)

/-- Any characters. -/
def anything : Regex.Pattern := .repeat (.one .full) 0 none

/-- A slash. -/
def slash : Regex.Pattern := .one (.singleton '/'.toNat)

/-- What a part stands for. -/
def pattern : NamePart → Regex.Pattern
  | character c => .one (.singleton c.toNat)
  | anyOne => .one .full
  | anyRun => anything
  | folders => .alt .empty (.seq anything (.alt slash (.look .textEnd)))
  | oneOf set => .one set

end NamePart

/-- A pattern for names. -/
structure NamePattern where
  /-- How it is written. -/
  text : String
  /-- Its parts. -/
  parts : List NamePart

namespace NamePattern

/-- Read a pattern. -/
def ofText (text : String) : Except Error NamePattern :=
  match NamePart.readAll 0 0 none text.toList with
  | .ok parts => .ok ⟨text, parts⟩
  | .error (position, fault) => .error (.invalidGlob text position fault)

/-- Read several patterns; the first one that is wrong is reported. -/
def ofTexts (texts : List String) : Except Error (List NamePattern) := texts.mapM ofText

/-- Does a pattern apply to a name? It does if it describes the name, and also if it is the name,
letter by letter. -/
def covers (p : NamePattern) (name : String) : Bool :=
  p.text == name || (Regex.Pattern.whole (p.parts.map NamePart.pattern)).isMatch name

end NamePattern

end Estree.Files
