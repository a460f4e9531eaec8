import Estree.Arena.Reading
import Estree.Files.Folder

/-!
# Documents in files

A document is a file with a syntax tree in JSON.
-/

namespace Estree

open Files (Place)

/-- A document that has been read. -/
structure Document where
  /-- The path it was read from. -/
  path : String
  /-- How many bytes it has. -/
  bytes : Nat
  /-- The tree; its root is `Arena.root`. -/
  arena : Arena

namespace Document

/-- The text of the file that a path leads to, seen from the folder `here`. -/
def readText (here : Place) (path : String) : Except Error String :=
  match (here.resolve path).map Place.entry with
  | .error failure => .error (.unreadable path failure)
  | .ok (.folder _) => .error (.unreadable path .isDirectory)
  | .ok (.file content) =>
    match String.fromUTF8? content with
    | none => .error (.unreadable path .invalidUtf8)
    | some text => .ok text

/-- The document with the given text. -/
def ofText (path text : String) : Except Error Document :=
  match Json.parse text with
  | .error e => .error (.invalidJson path e)
  | .ok v =>
    match Arena.ofValue? v with
    | none => .error (.rootNotNode (some path))
    | some arena => .ok { path, bytes := text.utf8ByteSize, arena }

/-- Read the document that a path leads to. -/
def load (here : Place) (path : String) : Except Error Document :=
  (readText here path).bind (ofText path)

/-- Read the documents that some paths lead to. One that cannot be read does not keep the others
from being read. -/
def loadAll (here : Place) (paths : List String) : List (Except Error Document) :=
  paths.map (load here)

end Document

end Estree
