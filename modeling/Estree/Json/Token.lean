import Estree.Json.Number

/-!
# Tokens of JSON texts

`Token.read` reads the token at the front of a text and says how many characters it takes, and
`lexemes` lists the tokens of a whole text with the byte each starts at. A malformed number, word or
string is a token too: whether its fault is the first one of the text depends on whether such a
token may stand at its place.
-/

namespace Estree.Json

/-- A token of a JSON text. -/
inductive Token where
  /-- The bracket `[`. -/
  | openArray
  /-- The bracket `]`. -/
  | closeArray
  /-- The opening brace. -/
  | openObject
  /-- The closing brace. -/
  | closeObject
  /-- A comma. -/
  | comma
  /-- A colon. -/
  | colon
  /-- A word or a number, or what is wrong with it. -/
  | atom (content : Except Fault Value)
  /-- A string, or what is wrong with it. -/
  | text (content : Except Fault String)
  /-- A character that starts no token. -/
  | stray

/-! ### Strings -/

/-- The value of a hexadecimal digit. -/
def hexValue? (c : Char) : Option Nat :=
  if c.isDigit then some (c.toNat - '0'.toNat)
  else if 'a' ≤ c ∧ c ≤ 'f' then some (c.toNat - 'a'.toNat + 10)
  else if 'A' ≤ c ∧ c ≤ 'F' then some (c.toNat - 'A'.toNat + 10)
  else none

/-- The 16-bit unit that four hexadecimal digits give. Four bytes are looked at together; a text
that is shorter ends inside the string. -/
def readUnit (cs : List Char) : Except Fault Nat :=
  match cs.take 4 |>.mapM hexValue? with
  | some [a, b, c, d] => .ok (((a * 16 + b) * 16 + c) * 16 + d)
  | _ =>
    let left := byteCount cs
    if left < 4 then .error ⟨.eofString, left⟩ else .error ⟨.invalidEscape, 4⟩

/-- Is the unit the first half of a surrogate pair? -/
def isLeadingSurrogate (n : Nat) : Bool := 0xD800 ≤ n && n ≤ 0xDBFF

/-- Is the unit the second half of a surrogate pair? -/
def isTrailingSurrogate (n : Nat) : Bool := 0xDC00 ≤ n && n ≤ 0xDFFF

/-- The character that the text after a backslash and a `u` gives, with the number of characters
read: a unit, or the two units of a surrogate pair. -/
def readUnicodeEscape (cs : List Char) : Except Fault (Char × Nat) := do
  let first ← readUnit cs
  if isTrailingSurrogate first then throw ⟨.loneSurrogate, 4⟩
  if !isLeadingSurrogate first then return (Char.ofNat first, 4)
  match cs.drop 4 with
  | [] => throw ⟨.eofString, 4⟩
  | ['\\'] => throw ⟨.eofString, 5⟩
  | '\\' :: 'u' :: rest =>
    let second ← shiftFault 6 (readUnit rest)
    if isTrailingSurrogate second then
      return (Char.ofNat ((first - 0xD800) * 0x400 + (second - 0xDC00) + 0x10000), 10)
    else throw ⟨.loneSurrogate, 10⟩
  | '\\' :: _ => throw ⟨.missingSurrogate, 6⟩
  | _ => throw ⟨.missingSurrogate, 5⟩

/-- The character that the text after a backslash gives, with the number of characters read. -/
def readEscape (cs : List Char) : Except Fault (Char × Nat) :=
  match cs with
  | [] => .error ⟨.eofString, 0⟩
  | '"' :: _ => .ok ('"', 1)
  | '\\' :: _ => .ok ('\\', 1)
  | '/' :: _ => .ok ('/', 1)
  | 'b' :: _ => .ok ('\x08', 1)
  | 'f' :: _ => .ok ('\x0c', 1)
  | 'n' :: _ => .ok ('\n', 1)
  | 'r' :: _ => .ok ('\r', 1)
  | 't' :: _ => .ok ('\t', 1)
  | 'u' :: rest => shiftFault 1 ((readUnicodeEscape rest).map fun (c, n) => (c, n + 1))
  | _ :: _ => .error ⟨.invalidEscape, 1⟩

/-- How far a string has been read. -/
structure TextProgress where
  /-- The text so far. -/
  content : String
  /-- The characters read. -/
  width : Nat
  /-- The bytes read. -/
  bytes : Nat

/-- Read a string up to its closing quote; `skip` characters belong to an escape that has been read
already. Gives the text and the number of characters read. -/
def readText (skip : Nat) (p : TextProgress) : List Char → Except Fault (String × Nat)
  | [] => .error ⟨.eofString, p.bytes⟩
  | c :: rest =>
    match skip with
    | skip + 1 => readText skip ⟨p.content, p.width + 1, p.bytes + c.utf8Size⟩ rest
    | 0 =>
      if c = '"' then .ok (p.content, p.width + 1)
      else if c = '\\' then
        match readEscape rest with
        | .error f => .error ⟨f.reason, p.bytes + 1 + f.offset⟩
        | .ok (e, n) => readText n ⟨p.content.push e, p.width + 1, p.bytes + 1⟩ rest
      else if c.toNat < 0x20 then .error ⟨.controlCharacter, p.bytes + 1⟩
      else readText 0 ⟨p.content.push c, p.width + 1, p.bytes + c.utf8Size⟩ rest

/-! ### Words -/

/-- Compare the front of a text with what is left of a word; `read` characters went before. -/
def readWord (v : Value) (read : Nat) : List Char → List Char → Except Fault (Value × Nat)
  | [], _ => .ok (v, read)
  | _ :: _, [] => .error ⟨.eofValue, read⟩
  | w :: word, c :: rest =>
    if w = c then readWord v (read + 1) word rest else .error ⟨.expectedWord, read + 1⟩

/-! ### Tokens -/

/-- Is this one of the four blanks that may stand between tokens? -/
def isBlank (c : Char) : Bool := c = ' ' || c = '\t' || c = '\n' || c = '\r'

/-- An atom and its width; a faulty one is the last token of its text, so its width is free. -/
def Token.ofAtom : Except Fault (Value × Nat) → Token × Nat
  | .ok (v, width) => (.atom (.ok v), width)
  | .error f => (.atom (.error f), 1)

/-- The token that starts with `c` and goes on with `rest`, and how many characters of `rest` belong
to it. -/
def Token.read (c : Char) (rest : List Char) : Token × Nat :=
  let atom (t : Except Fault (Value × Nat)) : Token × Nat :=
    let (token, width) := Token.ofAtom t
    (token, width - 1)
  match c with
  | '[' => (.openArray, 0)
  | ']' => (.closeArray, 0)
  | '\x7b' => (.openObject, 0)
  | '\x7d' => (.closeObject, 0)
  | ',' => (.comma, 0)
  | ':' => (.colon, 0)
  | '"' =>
    match readText 0 ⟨"", 1, 1⟩ rest with
    | .ok (s, width) => (.text (.ok s), width - 1)
    | .error f => (.text (.error f), 0)
  | 'n' => atom (readWord .null 1 "ull".toList rest)
  | 't' => atom (readWord (.bool true) 1 "rue".toList rest)
  | 'f' => atom (readWord (.bool false) 1 "alse".toList rest)
  | c => if c = '-' || c.isDigit then atom (readNumber (c :: rest)) else (.stray, 0)

/-- A faulty token ends a text: what follows it is not looked at. -/
def Token.isFaulty : Token → Bool
  | .atom (.error _) | .text (.error _) | .stray => true
  | _ => false

/-- A token and the byte it starts at. -/
structure Lexeme where
  /-- The bytes in front of the token. -/
  start : Nat
  /-- The token. -/
  token : Token

/-- Append the tokens of a text to `out`, up to the first faulty one. The next character stands at
byte `offset`, and the first `skip` characters belong to the token that was read last. -/
def lexemesFrom (out : Array Lexeme) (offset skip : Nat) : List Char → Array Lexeme
  | [] => out
  | c :: rest =>
    let next := offset + c.utf8Size
    match skip with
    | skip + 1 => lexemesFrom out next skip rest
    | 0 =>
      if isBlank c then lexemesFrom out next 0 rest
      else
        let (token, width) := Token.read c rest
        if token.isFaulty then out.push ⟨offset, token⟩
        else lexemesFrom (out.push ⟨offset, token⟩) next width rest

/-- The tokens of a text, up to the first faulty one. -/
def lexemes (text : List Char) : Array Lexeme := lexemesFrom #[] 0 0 text

end Estree.Json
