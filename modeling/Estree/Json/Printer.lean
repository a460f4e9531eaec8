import Estree.Json.Value
import Estree.Decimal.Notation

/-!
# JSON texts of values

`Value.compact` writes a value on one line without blanks, `Value.pretty` with one member or item a
line, two blanks deeper than what it belongs to.
-/

namespace Estree.Json

/-- A hexadecimal digit, in lower case. -/
def hexDigit (n : Nat) : Char := Nat.digitChar n

/-- How one character stands in a text: quotes, backslashes and control characters are escaped, all
else stands for itself. -/
def escapeChar (c : Char) : String :=
  match c with
  | '"' => "\\\""
  | '\\' => "\\\\"
  | '\x08' => "\\b"
  | '\x0c' => "\\f"
  | '\n' => "\\n"
  | '\r' => "\\r"
  | '\t' => "\\t"
  | c =>
    if c.toNat < 0x20 then
      "\\u00" ++ String.ofList [hexDigit (c.toNat / 16), hexDigit (c.toNat % 16)]
    else c.toString

/-- A text in quotes. -/
def quote (s : String) : String :=
  "\"" ++ s.foldl (fun out c => out ++ escapeChar c) "" ++ "\""

namespace Value

/-- The text of a value that holds no other values; nothing for arrays and objects. -/
def scalar : Value → String
  | null => "null"
  | bool b => if b then "true" else "false"
  | int n => toString n
  | float x => if x.isFinite then Decimal.Format.json.renderFloat x else "null"
  | string s => quote s
  | array _ | object _ => ""

mutual

/-- Append the value to `out`, on one line without blanks. -/
def writeCompact (out : String) : Value → String
  | array items => writeItems (out ++ "[") items ++ "]"
  | object members => writeMembers (out ++ "\x7b") members ++ "\x7d"
  | v => out ++ v.scalar

/-- Append the items of an array, separated by commas. -/
def writeItems (out : String) : List Value → String
  | [] => out
  | [v] => writeCompact out v
  | v :: rest => writeItems (writeCompact out v ++ ",") rest

/-- Append the members of an object, separated by commas. -/
def writeMembers (out : String) : List (String × Value) → String
  | [] => out
  | [(key, v)] => writeCompact (out ++ quote key ++ ":") v
  | (key, v) :: rest => writeMembers (writeCompact (out ++ quote key ++ ":") v ++ ",") rest

end

/-- The value on one line, without blanks. -/
def compact (v : Value) : String := writeCompact "" v

/-- A new line that starts with the blanks of nesting depth `depth`. -/
def newline (depth : Nat) : String := "\n" ++ String.ofList (List.replicate (2 * depth) ' ')

mutual

/-- Append the value, which stands at nesting depth `depth`, with one item or member a line. -/
def writePretty (depth : Nat) (out : String) : Value → String
  | array [] => out ++ "[]"
  | array items => writePrettyItems (depth + 1) (out ++ "[") items ++ newline depth ++ "]"
  | object [] => out ++ "\x7b\x7d"
  | object members =>
    writePrettyMembers (depth + 1) (out ++ "\x7b") members ++ newline depth ++ "\x7d"
  | v => out ++ v.scalar

/-- Append the items of an array, each on a line of its own. -/
def writePrettyItems (depth : Nat) (out : String) : List Value → String
  | [] => out
  | [v] => writePretty depth (out ++ newline depth) v
  | v :: rest => writePrettyItems depth (writePretty depth (out ++ newline depth) v ++ ",") rest

/-- Append the members of an object, each on a line of its own. -/
def writePrettyMembers (depth : Nat) (out : String) : List (String × Value) → String
  | [] => out
  | [(key, v)] => writePretty depth (out ++ newline depth ++ quote key ++ ": ") v
  | (key, v) :: rest =>
    writePrettyMembers depth
      (writePretty depth (out ++ newline depth ++ quote key ++ ": ") v ++ ",") rest

end

/-- The value with one item or member a line, two blanks deeper than what it belongs to. -/
def pretty (v : Value) : String := writePretty 0 "" v

end Value

end Estree.Json
