/-!
# What can be wrong with a JSON text

A fault is a reason together with a place, given as a number of bytes.
-/

namespace Estree.Json

/-- Why a text is no JSON value. -/
inductive Reason where
  /-- The text ends where a value was to follow. -/
  | eofValue
  /-- The text ends inside an object. -/
  | eofObject
  /-- The text ends inside an array. -/
  | eofList
  /-- The text ends inside a string. -/
  | eofString
  /-- No value starts here. -/
  | expectedValue
  /-- A word that starts like `null`, `true` or `false` goes on otherwise. -/
  | expectedWord
  /-- A colon is missing after a key. -/
  | expectedColon
  /-- Neither a comma nor the end of the array follows an item. -/
  | expectedListEnd
  /-- Neither a comma nor the end of the object follows a member. -/
  | expectedObjectEnd
  /-- A member does not start with a string. -/
  | keyNotString
  /-- A comma stands in front of a closing bracket. -/
  | trailingComma
  /-- Something follows the value. -/
  | trailingCharacters
  /-- A number breaks off or starts with a superfluous zero. -/
  | invalidNumber
  /-- A number is too large for a double. -/
  | numberOutOfRange
  /-- A backslash is followed by something that is no escape. -/
  | invalidEscape
  /-- An escape gives one half of a surrogate pair alone. -/
  | loneSurrogate
  /-- The second half of a surrogate pair is missing. -/
  | missingSurrogate
  /-- A control character stands in a string without being escaped. -/
  | controlCharacter
  /-- Arrays and objects are nested too deep. -/
  | tooDeep
  deriving DecidableEq, Repr

/-- The wording of a reason. -/
def Reason.message : Reason → String
  | .eofValue => "EOF while parsing a value"
  | .eofObject => "EOF while parsing an object"
  | .eofList => "EOF while parsing a list"
  | .eofString => "EOF while parsing a string"
  | .expectedValue => "expected value"
  | .expectedWord => "expected ident"
  | .expectedColon => "expected `:`"
  | .expectedListEnd => "expected `,` or `]`"
  | .expectedObjectEnd => "expected `,` or `\x7d`"
  | .keyNotString => "key must be a string"
  | .trailingComma => "trailing comma"
  | .trailingCharacters => "trailing characters"
  | .invalidNumber => "invalid number"
  | .numberOutOfRange => "number out of range"
  | .invalidEscape => "invalid escape"
  | .loneSurrogate => "lone leading surrogate in hex escape"
  | .missingSurrogate => "unexpected end of hex escape"
  | .controlCharacter => "control character (\\u0000-\\u001F) found while parsing a string"
  | .tooDeep => "recursion limit exceeded"

/-- A reason and the number of bytes read when it was noticed, counted from the start of the token
or of the text. -/
structure Fault where
  /-- What is wrong. -/
  reason : Reason
  /-- The number of bytes in front of the place. -/
  offset : Nat
  deriving DecidableEq, Repr

/-- The bytes that a list of characters takes in UTF-8. -/
def byteCount (cs : List Char) : Nat := cs.foldr (fun c n => c.utf8Size + n) 0

/-- A place in a text: a line counted from one and the bytes read on it. -/
structure Position where
  /-- The line, counted from one. -/
  line : Nat
  /-- The bytes in front of the place on its line. -/
  column : Nat
  deriving DecidableEq, Repr

/-- The place after the first `offset` bytes. A line feed among them starts a new line. -/
def Position.after (offset : Nat) (text : List Char) : Position :=
  go offset ⟨1, 0⟩ text
where
  /-- Go on from a position with `left` bytes still to pass. -/
  go (left : Nat) (p : Position) : List Char → Position
    | [] => p
    | c :: rest =>
      if left = 0 then p
      else if left < c.utf8Size then ⟨p.line, p.column + left⟩
      else if c = '\n' then go (left - 1) ⟨p.line + 1, 0⟩ rest
      else go (left - c.utf8Size) ⟨p.line, p.column + c.utf8Size⟩ rest

/-- What is reported about a text that is no JSON value. -/
structure ParseError where
  /-- What is wrong. -/
  reason : Reason
  /-- Where it was noticed. -/
  position : Position
  deriving DecidableEq, Repr

/-- The report as a text. -/
def ParseError.message (e : ParseError) : String :=
  e.reason.message ++ " at line " ++ toString e.position.line
    ++ " column " ++ toString e.position.column

end Estree.Json
