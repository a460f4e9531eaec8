import Estree.Unicode.Property
import Estree.Error

/-!
# Escapes in search patterns

What a backslash and the characters after it stand for. In extended patterns, blanks and comments
between characters that belong together are passed over, so the readers here work on the list of
characters that count, each with what follows it.
-/

namespace Estree.Regex

/-- A character that counts, and what follows it. -/
abbrev Visible := List (Char × List Char)

/-- The blanks that are passed over in extended patterns. -/
def isBlank (c : Char) : Bool :=
  c.toNat = 0x20 || (0x9 ≤ c.toNat && c.toNat ≤ 0xD) || c.toNat = 0x85 || c.toNat = 0xA0
    || c.toNat = 0x1680 || (0x2000 ≤ c.toNat && c.toNat ≤ 0x200A) || c.toNat = 0x2028
    || c.toNat = 0x2029 || c.toNat = 0x202F || c.toNat = 0x205F || c.toNat = 0x3000

/-- The characters that count. In extended patterns blanks do not, and neither does anything from a
hash sign to the end of its line. -/
def visible (extended : Bool) (inComment : Bool) : List Char → Visible
  | [] => []
  | c :: rest =>
    if inComment then visible extended (c != '\n') rest
    else if extended && isBlank c then visible extended false rest
    else if extended && c = '#' then visible extended true rest
    else (c, rest) :: visible extended false rest

/-- What follows the characters of a list that have been read; `cs` is what followed in front. -/
def Visible.rest (read : Visible) (cs : List Char) : List Char :=
  (read.getLast?.map (·.2)).getD cs

/-- The classes of characters that have a letter of their own. -/
inductive ShortClass where
  /-- Decimal digits. -/
  | digit
  /-- White space. -/
  | space
  /-- Word characters. -/
  | word
  deriving DecidableEq, Repr

/-- A name in an escape for a class of characters. -/
inductive ClassName where
  /-- A name alone. -/
  | single (name : String)
  /-- A property and its value. -/
  | pair (property value : String)
  deriving DecidableEq, Repr

/-- The places with respect to words, and the ends of the text, that have an escape. -/
inductive Place where
  /-- The start of the text. -/
  | textStart
  /-- The end of the text. -/
  | textEnd
  /-- Between a word character and something else. -/
  | boundary
  /-- Not between a word character and something else. -/
  | inside
  /-- The start of a word. -/
  | wordStart
  /-- The end of a word. -/
  | wordEnd
  /-- Not after a word character. -/
  | wordStartHalf
  /-- Not in front of a word character. -/
  | wordEndHalf
  deriving DecidableEq, Repr

/-- What an escape, or a character that stands for itself, means. -/
inductive Atom where
  /-- A character; `raw` if it was given as a byte in two hexadecimal digits. -/
  | literal (code : Nat) (raw : Bool)
  /-- A class with a letter of its own, or all other characters. -/
  | short (cls : ShortClass) (negated : Bool)
  /-- A class with a name, or all other characters. -/
  | named (name : ClassName) (negated : Bool)
  /-- A place. -/
  | place (p : Place)
  deriving DecidableEq, Repr

/-- A reader gives what it has read and what follows. -/
abbrev Read (α : Type) := Except RegexFault (α × List Char)

/-- Refuse a pattern. -/
def malformed {α : Type} : Except RegexFault α := .error .malformed

/-- The characters with a meaning of their own. -/
def isMeta (c : Char) : Bool := "\\.+*?()|[]\x7b\x7d^$#&-~".toList.contains c

/-- Does a backslash in front of the character change nothing? -/
def isEscapable (c : Char) : Bool :=
  isMeta c || (c.toNat < 0x80 && !c.isAlphanum && c != '<' && c != '>')

/-- The value of hexadecimal digits. -/
def hexValue? (digits : List Char) : Option Nat :=
  digits.foldlM (fun n c =>
    if c.isDigit then some (n * 16 + (c.toNat - 48))
    else if 'a' ≤ c ∧ c ≤ 'f' then some (n * 16 + (c.toNat - 87))
    else if 'A' ≤ c ∧ c ≤ 'F' then some (n * 16 + (c.toNat - 55))
    else none) 0

/-- A character given by number; halves of surrogate pairs are no characters. -/
def literalOfCode (code : Nat) (raw : Bool) : Except RegexFault Atom :=
  if code < 0xD800 || (0xDFFF < code && code ≤ Unicode.lastCode) then .ok (.literal code raw)
  else malformed

/-- A character given by a number in braces, or by `width` hexadecimal digits. -/
def readHex (extended : Bool) (width : Nat) (cs : List Char) : Read Atom :=
  let chars := visible extended false cs
  match chars with
  | ('\x7b', _) :: inside =>
    let digits := inside.takeWhile (·.1 != '\x7d')
    match inside.drop digits.length, hexValue? (digits.map (·.1)) with
    | (_, after) :: _, some code =>
      if digits.isEmpty then malformed else (literalOfCode code false).map (·, after)
    | _, _ => malformed
  | _ =>
    let digits := chars.take width
    match hexValue? (digits.map (·.1)) with
    | some code =>
      if digits.length < width then malformed
      else (literalOfCode code (width = 2)).map (·, Visible.rest digits cs)
    | none => malformed

/-- Split a text at the first place where one of some separators stands. -/
def splitAtFirst (separator : List Char) : List Char → Option (List Char × List Char)
  | [] => none
  | c :: rest =>
    if separator.isPrefixOf (c :: rest) then some ([], (c :: rest).drop separator.length)
    else (splitAtFirst separator rest).map fun (a, b) => (c :: a, b)

/-- The class with a name that stands in braces. A property and its value are separated in three
ways, one of which means all characters with another value. -/
def namedClass (name : List Char) (negated : Bool) : Atom :=
  let pair (negated : Bool) (split : List Char × List Char) : Atom :=
    .named (.pair (String.ofList split.1) (String.ofList split.2)) negated
  match splitAtFirst ['!', '='] name, splitAtFirst [':'] name <|> splitAtFirst ['='] name with
  | some split, _ => pair (!negated) split
  | none, some split => pair negated split
  | none, none => .named (.single (String.ofList name)) negated

/-- The class after a backslash and a letter `p`: one letter, or a name in braces. -/
def readNamedClass (extended negated : Bool) (cs : List Char) : Read Atom :=
  match visible extended false cs with
  | ('\x7b', _) :: inside =>
    let name := inside.takeWhile (·.1 != '\x7d')
    match inside.drop name.length with
    | (_, after) :: _ => .ok (namedClass (name.map (·.1)) negated, after)
    | [] => malformed
  | ('\\', _) :: _ | [] => malformed
  | (c, after) :: _ => .ok (.named (.single c.toString) negated, after)

/-- The place after `\b`, which may be described in braces; braces that start with anything but a
letter or a hyphen do not belong to it. -/
def readBoundary (extended : Bool) (cs : List Char) : Read Place :=
  match cs with
  | '\x7b' :: after =>
    let inside := visible extended false after
    let isName (c : Char) : Bool := c.isAlpha || c = '-'
    match inside with
    | [] => malformed
    | (c, _) :: _ =>
      if !isName c then .ok (.boundary, cs)
      else
        let name := inside.takeWhile fun v => isName v.1
        match inside.drop name.length with
        | ('\x7d', after) :: _ =>
          match String.ofList (name.map (·.1)) with
          | "start" => .ok (.wordStart, after)
          | "end" => .ok (.wordEnd, after)
          | "start-half" => .ok (.wordStartHalf, after)
          | "end-half" => .ok (.wordEndHalf, after)
          | _ => malformed
        | _ => malformed
  | _ => .ok (.boundary, cs)

/-- What the text after a backslash means. -/
def readEscape (extended : Bool) : List Char → Read Atom
  | [] => malformed
  | 'x' :: rest => readHex extended 2 rest
  | 'u' :: rest => readHex extended 4 rest
  | 'U' :: rest => readHex extended 8 rest
  | 'p' :: rest => readNamedClass extended false rest
  | 'P' :: rest => readNamedClass extended true rest
  | 'd' :: rest => .ok (.short .digit false, rest)
  | 's' :: rest => .ok (.short .space false, rest)
  | 'w' :: rest => .ok (.short .word false, rest)
  | 'D' :: rest => .ok (.short .digit true, rest)
  | 'S' :: rest => .ok (.short .space true, rest)
  | 'W' :: rest => .ok (.short .word true, rest)
  | 'a' :: rest => .ok (.literal 0x07 false, rest)
  | 'f' :: rest => .ok (.literal 0x0C false, rest)
  | 't' :: rest => .ok (.literal 0x09 false, rest)
  | 'n' :: rest => .ok (.literal 0x0A false, rest)
  | 'r' :: rest => .ok (.literal 0x0D false, rest)
  | 'v' :: rest => .ok (.literal 0x0B false, rest)
  | 'A' :: rest => .ok (.place .textStart, rest)
  | 'z' :: rest => .ok (.place .textEnd, rest)
  | 'b' :: rest => (readBoundary extended rest).map fun (p, rest) => (.place p, rest)
  | 'B' :: rest => .ok (.place .inside, rest)
  | '<' :: rest => .ok (.place .wordStart, rest)
  | '>' :: rest => .ok (.place .wordEnd, rest)
  | c :: rest => if isEscapable c then .ok (.literal c.toNat false, rest) else malformed

end Estree.Regex
