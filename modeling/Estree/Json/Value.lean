import Estree.Dict

/-!
# JSON values

The data model of JSON as the documents use it: whole numbers keep their exact value, and all other
numbers are doubles. An object lists its members; reading a text gives them sorted by key, and a
value that is only to be written may have them in any order.
-/

namespace Estree.Json

/-- A JSON value. -/
inductive Value where
  /-- The value `null`. -/
  | null
  /-- A truth value. -/
  | bool (b : Bool)
  /-- A number written without fraction and exponent that fits 64 bits. -/
  | int (n : Int)
  /-- Any other number. -/
  | float (x : Float)
  /-- A text. -/
  | string (s : String)
  /-- A list of values. -/
  | array (items : List Value)
  /-- Named values. -/
  | object (members : List (String × Value))
  deriving Inhabited

namespace Value

/-- The text of a string value. -/
def text? : Value → Option String
  | string s => some s
  | _ => none

/-- The members of an object. -/
def members? : Value → Option (Dict Value)
  | object members => some members
  | _ => none

/-- The items of an array. -/
def items? : Value → Option (List Value)
  | array items => some items
  | _ => none

/-- The member of an object named `key`; other values have no members. -/
def member? (v : Value) (key : String) : Option Value :=
  v.members?.bind (·.get? key)

/-- An object with the given members in the given order; the absent ones are left out. -/
def ofFields (fields : List (String × Option Value)) : Value :=
  object (fields.filterMap fun (key, value) => value.map (key, ·))

/-- A natural number as a value. -/
def ofNat (n : Nat) : Value := int n

/-- A list of texts as a value. -/
def ofTexts (texts : List String) : Value := array (texts.map string)

end Value

end Estree.Json
