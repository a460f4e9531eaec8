import Estree.Unicode.BreakTable
import Estree.Unicode.CategoryTable
import Estree.Unicode.EditionTable
import Estree.Unicode.ScriptTable

/-!
# Looking up sets of characters by name

Characters are looked up by general category, by script, by the edition of the database that added
them, and by the properties they have. The database is that of edition 16. Names are compared
without regard to case, blanks, hyphens and underscores.

## Main definitions

* `normalizeName`: the spelling of a name that is compared;
* `setOfName?` and `setOfValue?`: the characters that a name or a value of a property stands for.
-/

namespace Estree.Unicode

/-- The spelling of a name that is compared: in small letters, without blanks, hyphens, underscores
and characters beyond ASCII, and without a leading `is`. The short name `isc` keeps its `is`. -/
def normalizeName (name : String) : String :=
  let small := (name.toList.filter fun c => c.toNat < 128).map Char.toLower
  let (starts, rest) :=
    match name.toList.map Char.toLower, small with
    | 'i' :: 's' :: _, 'i' :: 's' :: rest => (true, rest)
    | _, _ => (false, small)
  let kept := rest.filter fun c => c != ' ' && c != '_' && c != '-'
  if starts && kept == ['c'] then "isc" else String.ofList kept

/-! ### General categories -/

/-- The ranges of the categories for which `test` holds, from runs in increasing order. -/
def categoryRanges (test : String → Bool) : List (Nat × String) → List (Nat × Nat)
  | [] => []
  | [(start, category)] => if test category then [(start, lastCode)] else []
  | (start, category) :: (next, following) :: rest =>
    let tail := categoryRanges test ((next, following) :: rest)
    if test category then (start, next - 1) :: tail else tail

/-- Where the categories begin. -/
def parsedRuns : List (Nat × String) :=
  (words categoryRuns).filterMap fun run =>
    match run.splitOn ":" with
    | [start, category] => some (hexNumber start, category)
    | _ => none

/-- The characters of some general categories. -/
def categories (names : List String) : CodeSet :=
  .ofRanges (categoryRanges names.contains parsedRuns)

/-- The characters of the category, or the group of categories, with a given name. -/
def category? (name : String) : Option CodeSet :=
  match name with
  | "any" => some .full
  | "assigned" => some (categories ["Cn"]).complement
  | "ascii" => some ⟨[(0, 0x7F)]⟩
  | _ => (categoryNames.find? (·.1.contains name)).map fun row => categories row.2

/-! ### Scripts -/

/-- The characters that belong to the script with a given name. -/
def script? (name : String) : Option CodeSet :=
  (scriptRows.find? (·.names.contains name)).map fun row => .ofText row.members

/-- The characters that are used with the script with a given name. -/
def scriptExtensions? (name : String) : Option CodeSet :=
  (scriptRows.find? (·.names.contains name)).map fun row =>
    ((CodeSet.ofText row.members).diff (.ofText listedCharacters)).union (.ofText row.listed)

/-! ### Properties -/

/-- The characters with the property of a row. -/
def PropertyRow.members (row : PropertyRow) : CodeSet :=
  ((Unicode.categories row.categories).union (.ofText row.plus)).diff (.ofText row.minus)

/-- The characters of the row that has a given name. -/
def rowNamed? (rows : List PropertyRow) (name : String) : Option CodeSet :=
  (rows.find? (·.names.contains name)).map PropertyRow.members

/-- The characters with the property that has a given name. -/
def property? (name : String) : Option CodeSet := rowNamed? propertyRows name

/-- The characters with the property that has a given name, which is known. -/
def property (name : String) : CodeSet := (property? name).getD .empty

/-! ### Editions -/

/-- The characters of the rows up to the one that has a given name. -/
def charactersUpTo? (name : String) : List EditionRow → Option CodeSet
  | [] => none
  | row :: rest =>
    let added := CodeSet.ofText row.added
    if row.names.contains name then some added else (charactersUpTo? name rest).map added.union

/-- The characters of the edition with a given name. -/
def edition? (name : String) : Option CodeSet := charactersUpTo? name editionRows

/-! ### Names -/

/-- The characters that a name stands for: a property, a category or a script. Three short names of
categories are also names of properties, and mean the categories. -/
def setOfName? (name : String) : Option CodeSet :=
  let name := normalizeName name
  let property :=
    if name = "cf" || name = "sc" || name = "lc" then none else property? name
  property <|> category? name <|> script? name

/-- The characters for which a property has a given value. -/
def setOfValue? (property value : String) : Option CodeSet :=
  let value := normalizeName value
  match normalizeName property with
  | "gc" | "generalcategory" => category? value
  | "sc" | "script" => script? value
  | "scx" | "scriptextensions" => scriptExtensions? value
  | "age" => edition? value
  | "gcb" | "graphemeclusterbreak" => rowNamed? clusterRows value
  | "wb" | "wordbreak" => rowNamed? wordRows value
  | "sb" | "sentencebreak" => rowNamed? sentenceRows value
  | _ => none

/-- Decimal digits. -/
def digits : CodeSet := categories ["Nd"]

/-- White space. -/
def blanks : CodeSet := property "whitespace"

/-- The characters of words: letters, marks, digits, connectors and joiners. -/
def wordCharacters : CodeSet :=
  .unions [property "alphabetic", categories ["Mn", "Mc", "Me", "Nd", "Pc"],
    property "joincontrol"]

end Estree.Unicode
