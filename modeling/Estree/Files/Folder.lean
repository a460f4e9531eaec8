import Estree.Error

/-!
# Folders and paths

A `Folder` holds files and other folders under names. Its entries are kept in increasing order of
their names, which is also the order of the UTF-8 bytes, so whatever goes through a folder from
front to back meets the names in order.

A path is text: names with slashes between them. A `Place` is what a path leads to, together with
the folders around it, so that a path can also lead upwards.

## Main definitions

* `Folder.putFile` and `Folder.putFolder`;
* `Place.resolve`: what a path leads to.
-/

namespace Estree.Files

/-- What is in a folder. -/
inductive Folder where
  /-- Nothing. -/
  | empty
  /-- A file, and what comes after it. -/
  | file (name : String) (content : ByteArray) (rest : Folder)
  /-- A folder, and what comes after it. -/
  | folder (name : String) (inner : Folder) (rest : Folder)
  deriving Inhabited

/-- Something that a name stands for. -/
inductive Entry where
  /-- A file. -/
  | file (content : ByteArray)
  /-- A folder. -/
  | folder (inner : Folder)

namespace Folder

/-- What a name stands for. -/
def find? (name : String) : Folder → Option Entry
  | empty => none
  | file n content rest => if n = name then some (.file content) else rest.find? name
  | folder n inner rest => if n = name then some (.folder inner) else rest.find? name

/-- The content of the file with the given name. -/
def contentOf? (f : Folder) (name : String) : Option ByteArray :=
  match f.find? name with
  | some (.file content) => some content
  | _ => none

/-- The folder with the given name. -/
def folderOf? (f : Folder) (name : String) : Option Folder :=
  match f.find? name with
  | some (.folder inner) => some inner
  | _ => none

/-- The name of the first entry. -/
def firstName? : Folder → Option String
  | empty => none
  | file name _ _ | folder name _ _ => some name

/-- A folder with one entry, in front of `rest`. -/
def cons (name : String) (e : Entry) (rest : Folder) : Folder :=
  match e with
  | .file content => file name content rest
  | .folder inner => folder name inner rest

/-- Let a name stand for what `change` makes of what it stood for. -/
def alter (name : String) (change : Option Entry → Entry) : Folder → Folder
  | empty => cons name (change none) empty
  | file n content rest =>
    if name < n then cons name (change none) (file n content rest)
    else if name = n then cons name (change (some (.file content))) rest
    else file n content (rest.alter name change)
  | folder n inner rest =>
    if name < n then cons name (change none) (folder n inner rest)
    else if name = n then cons name (change (some (.folder inner))) rest
    else folder n inner (rest.alter name change)

/-- Put a file at the end of a row of folders, which are made if they are not there. -/
def putFile (content : ByteArray) : List String → Folder → Folder
  | [], f => f
  | [name], f => f.alter name fun _ => .file content
  | name :: path, f => f.alter name fun old =>
    match old with
    | some (.folder inner) => .folder (putFile content path inner)
    | _ => .folder (putFile content path empty)

/-- Make a row of folders; those that are there already stay as they are. -/
def putFolder : List String → Folder → Folder
  | [], f => f
  | name :: path, f => f.alter name fun old =>
    match old with
    | some (.folder inner) => .folder (putFolder path inner)
    | _ => .folder (putFolder path empty)

/-- The entries stand in increasing order of their names, each name once, and so do those of the
folders in it. -/
def Sorted : Folder → Prop
  | empty => True
  | file name _ rest => (∀ n ∈ rest.firstName?, name < n) ∧ rest.Sorted
  | folder name inner rest => (∀ n ∈ rest.firstName?, name < n) ∧ inner.Sorted ∧ rest.Sorted

end Folder

/-! ### Paths as text -/

/-- The parts of a path between its slashes. -/
def pathParts (path : String) : List String := path.splitOn "/"

/-- What follows some characters at the front of others. -/
def afterFront? (front cs : List Char) : Option (List Char) :=
  if front.isPrefixOf cs then some (cs.drop front.length) else none

/-- A name below a path. -/
def joinPath (path name : String) : String :=
  if path.endsWith "/" then path ++ name else path ++ "/" ++ name

/-- The last name in a path, or the path itself if it ends otherwise. -/
def fileName (path : String) : String :=
  match (pathParts path).reverse.find? fun part => part != "" && part != "." with
  | none | some ".." => path
  | some name => name

/-- What follows the last dot of a name. A dot at the very start is a part of the name. -/
def extension? (name : String) : Option String :=
  let parts := name.splitOn "."
  match parts, parts.getLast? with
  | [], _ | [_], _ | ["", _], _ => none
  | _, last => last

/-! ### Places -/

/-- A file or folder with the folders around it, up to the outermost one. -/
structure Place where
  /-- The outermost folder. -/
  top : Folder
  /-- The way down from there: names and what they stand for, the last one first. Every entry but
  the first one is a folder. -/
  trail : List (String × Entry) := []

namespace Place

/-- What is at a place. -/
def entry (p : Place) : Entry := ((p.trail.head?).map Prod.snd).getD (.folder p.top)

/-- How many bytes a name may have. -/
def nameLimit : Nat := 255

/-- How many bytes a path may have. -/
def pathLimit : Nat := 4095

/-- Go on by one part of a path. -/
def follow (p : Place) (part : String) : Except ReadFailure Place :=
  match p.entry with
  | .file _ => .error .notDirectory
  | .folder f =>
    if part = "" || part = "." then .ok p
    else if part = ".." then .ok { p with trail := p.trail.tail }
    else
      match f.find? part with
      | none => .error (if nameLimit < part.utf8ByteSize then .nameTooLong else .noSuchFile)
      | some e => .ok { p with trail := (part, e) :: p.trail }

/-- What a path leads to, seen from the folder `here`. -/
def resolve (here : Place) (path : String) : Except ReadFailure Place :=
  let start := if path.startsWith "/" then { here with trail := [] } else here
  if path.contains '\x00' then .error .nullCharacter
  else if path = "" then .error .noSuchFile
  else if pathLimit < path.utf8ByteSize then .error .nameTooLong
  else (pathParts path).foldlM follow start

/-- The folders around a place, innermost first, each with the names that lead from it to the
place. -/
def surroundings (p : Place) : List (Folder × List String) :=
  go [] p.trail
where
  /-- `below` leads to the place from the last entry of what is left of the trail. -/
  go (below : List String) : List (String × Entry) → List (Folder × List String)
    | [] => []
    | (name, _) :: rest =>
      let below := name :: below
      match ((rest.head?).map Prod.snd).getD (.folder p.top) with
      | .folder f => (f, below) :: go below rest
      | .file _ => go below rest

end Place

end Estree.Files
