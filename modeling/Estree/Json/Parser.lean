import Estree.Json.Token

/-!
# Reading JSON texts

The parser is a machine that takes one token at a time. Its state says what may come next and holds
a stack of the arrays and objects that are still open, so it needs no recursion over the nesting.
A text is refused at the first token that cannot stand at its place.

## Main definitions

* `Machine.feed`: one step of the machine;
* `Json.parse`: the value of a text, or what is wrong with it and where.
-/

namespace Estree.Json

/-- An array or object that has not been closed yet. -/
inductive Container where
  /-- An array, with its items so far, the last one first. -/
  | array (items : List Value)
  /-- An object, with its members so far and the key of the one being read. -/
  | object (members : Dict Value) (key : String)

/-- What may come next. -/
inductive Expecting where
  /-- A value, at the start of the text or after a colon. -/
  | value
  /-- An item or the end of an array that has just been opened. -/
  | firstItem
  /-- An item, after a comma. -/
  | item
  /-- A key or the end of an object that has just been opened. -/
  | firstKey
  /-- A key, after a comma. -/
  | key
  /-- The colon after a key. -/
  | colon
  /-- A comma or the end of the innermost container, after a value. -/
  | continuation
  /-- The end of the text. -/
  | ending (v : Value)

/-- The state of the parser. -/
structure Machine where
  /-- What may come next. -/
  expecting : Expecting
  /-- What is open, innermost first. -/
  stack : List Container

/-- How many arrays and objects may be open at once. -/
def depthLimit : Nat := 127

namespace Machine

/-- The state in front of a text. -/
def start : Machine := ⟨.value, []⟩

/-- Hand a complete value to the innermost container. -/
def complete (v : Value) : List Container → Machine
  | [] => ⟨.ending v, []⟩
  | .array items :: rest => ⟨.continuation, .array (v :: items) :: rest⟩
  | .object members key :: rest => ⟨.continuation, .object (members.insert key v) key :: rest⟩

/-- Open a container, unless too many are open. -/
def descend (m : Machine) (start : Nat) (c : Container) (next : Expecting) :
    Except Fault Machine :=
  if m.stack.length < depthLimit then .ok ⟨next, c :: m.stack⟩ else .error ⟨.tooDeep, start + 1⟩

/-- Take the token that starts a value. -/
def feedValue (m : Machine) (t : Lexeme) : Except Fault Machine :=
  match t.token with
  | .openArray => m.descend t.start (.array []) .firstItem
  | .openObject => m.descend t.start (.object [] "") .firstKey
  | .atom content => (shiftFault t.start content).map (complete · m.stack)
  | .text content => (shiftFault t.start content).map fun s => complete (.string s) m.stack
  | .closeArray | .closeObject | .comma | .colon | .stray =>
    .error ⟨.expectedValue, t.start + 1⟩

/-- Take the token that starts a member. -/
def feedKey (m : Machine) (t : Lexeme) : Except Fault Machine :=
  match t.token, m.stack with
  | .text content, .object members _ :: rest =>
    (shiftFault t.start content).map fun s => ⟨.colon, .object members s :: rest⟩
  | _, _ => .error ⟨.keyNotString, t.start + 1⟩

/-- Take the token after a value inside a container. -/
def feedContinuation (m : Machine) (t : Lexeme) : Except Fault Machine :=
  match m.stack, t.token with
  | .array _ :: _, .comma => .ok ⟨.item, m.stack⟩
  | .array items :: rest, .closeArray => .ok (complete (.array items.reverse) rest)
  | .object _ _ :: _, .comma => .ok ⟨.key, m.stack⟩
  | .object members _ :: rest, .closeObject => .ok (complete (.object members) rest)
  | .object _ _ :: _, _ => .error ⟨.expectedObjectEnd, t.start + 1⟩
  | _, _ => .error ⟨.expectedListEnd, t.start + 1⟩

/-- Take one token. -/
def feed (m : Machine) (t : Lexeme) : Except Fault Machine :=
  match m.expecting, t.token with
  | .value, _ => m.feedValue t
  | .firstItem, .closeArray => m.feedContinuation t
  | .firstItem, _ => m.feedValue t
  | .item, .closeArray => .error ⟨.trailingComma, t.start + 1⟩
  | .item, _ => m.feedValue t
  | .firstKey, .closeObject => m.feedContinuation t
  | .firstKey, _ => m.feedKey t
  | .key, .closeObject => .error ⟨.trailingComma, t.start + 1⟩
  | .key, _ => m.feedKey t
  | .colon, .colon => .ok ⟨.value, m.stack⟩
  | .colon, _ => .error ⟨.expectedColon, t.start + 1⟩
  | .continuation, _ => m.feedContinuation t
  | .ending _, _ => .error ⟨.trailingCharacters, t.start + 1⟩

/-- What is missing when the text ends here. -/
def missing (m : Machine) : Reason :=
  match m.expecting, m.stack with
  | .firstItem, _ => .eofList
  | .firstKey, _ => .eofObject
  | .colon, _ => .eofObject
  | .continuation, .object _ _ :: _ => .eofObject
  | .continuation, _ => .eofList
  | _, _ => .eofValue

/-- The value that has been read when the text ends, `size` being the bytes of the text. -/
def finish (m : Machine) (size : Nat) : Except Fault Value :=
  match m.expecting with
  | .ending v => .ok v
  | _ => .error ⟨m.missing, size⟩

end Machine

/-- The value of a text given as characters. -/
def parseChars (text : List Char) : Except Fault Value := do
  let m ← (lexemes text).foldlM Machine.feed Machine.start
  m.finish (byteCount text)

/-- The value of a text, or what is wrong with it and where. -/
def parse (text : String) : Except ParseError Value :=
  let cs := text.toList
  (parseChars cs).mapError fun f => ⟨f.reason, .after f.offset cs⟩

end Estree.Json
