import Estree.Files.FolderRules
import Estree.Files.NamePattern
import Estree.Unicode.Case

/-!
# Looking for documents

A path to a file stands for that file. A path to a folder stands for the documents in it: the files
with one of the wanted extensions, in the order of their names, where what is in a folder comes in
the place of the folder. Names that are not wanted are passed over, with all that is below them, but
the folder that the path names is never put to a test.

Ignore rules are those of the folder that an entry is in and of all folders around it. The rules of
an inner folder go before those of an outer one, and all rules of one kind go before those of the
next.

Rules apply to paths from their folder on. For a folder around the one that is searched, this is the
way from the one to the other. For one inside, the path of the folder is taken from the path of the
entry, both as they are written; so if the search starts at a path with dots at its front, what is
left of the path may not be what the rules mean.

## Main definitions

* `Discovery.verdict?`: what the ignore rules say of an entry;
* `Folder.documents`: the documents in a folder;
* `discover`: the documents that some paths stand for.
-/

namespace Estree.Files

/-- What to look for. -/
structure SearchSettings where
  /-- Are hidden and ignored entries wanted, too? -/
  all : Bool := false
  /-- Patterns for the names of entries that are not wanted. -/
  ignore : List String := []
  /-- The extensions of documents. -/
  extensions : List String := ["json"]
  /-- How many documents may be read at once, where zero means as many as is useful. What is read
  does not depend on it. -/
  workers : Nat := 0

namespace Discovery

/-- Where a folder with rules is. -/
inductive Seat where
  /-- In what is searched, at a path. -/
  | inside (path : String)
  /-- Around it; the names lead from the folder to the place that is looked at, the last one
  first. -/
  | around (below : List String)

/-- A path without the `./` at its front. -/
def dropDot (path : List Char) : List Char := (afterFront? ['.', '/'] path).getD path

/-- Does a path only say that one stays where one is? -/
def staysHere (path : List Char) : Bool :=
  path.head? = some '.' &&
    (pathParts (String.ofList path)).all fun part => part = "" || part = "."

/-- What is left of the path of an entry from a folder on, as far as the path goes through it. -/
def pathFrom (folder path : String) : String :=
  let folder := dropDot folder.toList
  let path := dropDot (dropDot path.toList)
  String.ofList <|
    if staysHere folder || !path.contains '/' then path
    else
      match afterFront? folder path with
      | none => path
      | some rest => (afterFront? ['/'] rest).getD rest

/-- A folder around an entry. -/
structure Scope where
  /-- Its rules. -/
  rules : FolderRules
  /-- Where it is. -/
  seat : Seat

namespace Scope

/-- The same folder seen from one level deeper. -/
def deeper (name : String) (s : Scope) : Scope :=
  match s.seat with
  | .inside _ => s
  | .around below => { s with seat := .around (name :: below) }

/-- The path from the folder to an entry at the place, which has a name and a path. -/
def pathTo (s : Scope) (path name : String) : String :=
  match s.seat with
  | .inside folder => pathFrom folder path
  | .around below => "/".intercalate (name :: below).reverse

end Scope

/-- What the rules of the folders around an entry, innermost first, say of it: is it kept? -/
def verdict? (scopes : List Scope) (path name : String) (isFolder : Bool) : Option Bool :=
  [FolderRules.plain, FolderRules.git, FolderRules.excluded].findSome? fun rules =>
    scopes.findSome? fun s => IgnoreRule.verdict? (rules s.rules) (s.pathTo path name) isFolder

/-- Is a name hidden? It is if it starts with a dot, but not if it ends with one, too. -/
def isHidden (name : String) : Bool := name.startsWith "." && !name.endsWith "."

/-- Is an entry wanted? Hidden ones are, if they are kept by a rule. -/
def isWanted (all : Bool) (unwanted : List NamePattern) (scopes : List Scope) (path name : String)
    (isFolder : Bool) : Bool :=
  (all || (verdict? scopes path name isFolder).getD (!isHidden name))
    && !unwanted.any (·.covers name)

/-- Does a name have one of the extensions? Capital letters in it do not count as such. -/
def hasExtension (extensions : List String) (name : String) : Bool :=
  ((extension? name).map Unicode.lowercase).any extensions.contains

/-- The scopes inside a folder with the given name and path. -/
def enter (here : Place) (scopes : List Scope) (path name : String) (inner : Folder) : List Scope :=
  ⟨.ofFolder here inner, .inside path⟩ :: scopes.map (.deeper name)

end Discovery

open Discovery in
/-- The documents in a folder, as paths that go on from `path`. -/
def Folder.documents (here : Place) (s : SearchSettings) (unwanted : List NamePattern)
    (scopes : List Scope) (path : String) : Folder → List String
  | .empty => []
  | .file name _ rest =>
    let others := rest.documents here s unwanted scopes path
    let entry := joinPath path name
    if isWanted s.all unwanted scopes entry name false && hasExtension s.extensions name then
      entry :: others
    else others
  | .folder name inner rest =>
    let others := rest.documents here s unwanted scopes path
    let entry := joinPath path name
    if isWanted s.all unwanted scopes entry name true then
      let scopes := enter here scopes entry name inner
      inner.documents here s unwanted scopes entry ++ others
    else others

namespace Discovery

/-- The scopes in the folder at a place that a path leads to. -/
def scopesAt (here : Place) (path : String) (p : Place) (f : Folder) : List Scope :=
  ⟨.ofFolder here f, .inside path⟩ :: p.surroundings.map fun (around, below) =>
    ⟨.ofFolder here around, .around below.reverse⟩

/-- Is a path a hyphen alone, whatever slashes and dots follow it? -/
def isHyphen (path : String) : Bool :=
  match pathParts path with
  | "-" :: rest => rest.all fun part => part = "" || part = "."
  | _ => false

/-- The documents that one path stands for. A hyphen in the place of a folder stands for what comes
in from outside, among which no documents are looked for. -/
def expand (here : Place) (s : SearchSettings) (unwanted : List NamePattern) (path : String) :
    Except Error (List String) :=
  match here.resolve path with
  | .error _ => .error (.unreadable path .absent)
  | .ok p =>
    match p.entry with
    | .file _ => .ok [path]
    | .folder f =>
      .ok (if isHyphen path then [] else f.documents here s unwanted (scopesAt here path p f) path)

end Discovery

/-- The documents that some paths stand for, seen from the folder `here`. -/
def discover (here : Place) (s : SearchSettings) (paths : List String) :
    Except Error (List String) := do
  let unwanted ← NamePattern.ofTexts s.ignore
  return (← paths.mapM (Discovery.expand here s unwanted)).flatten

end Estree.Files
