import Estree.Files.Folder
import Estree.Files.IgnoreRule

/-!
# The ignore rules of a folder

A folder has ignore rules of three kinds: those in `.ignore`, those in `.gitignore`, and those that
are excluded in what `.git` stands for. If `.git` is a folder, they are in it. If it is a file, it
is a link: its first line names a folder, in which the file `commondir` names the one that has
them. Both names are paths seen from where the program runs, not from the folder with the link; but
one that starts with a dot goes on from the folder with `commondir`.

## Main definitions

* `GitLink.folder?` and `GitLink.shared?`: what the two files of a link name;
* `FolderRules.ofFolder`: the rules of a folder.
-/

namespace Estree.Files

/-- A name below a path; below an empty path, the name alone. -/
def under (path name : String) : String := if path = "" then name else joinPath path name

/-- The content of the file that a path leads to. -/
def Place.contentOf? (here : Place) (path : String) : Option ByteArray :=
  match (here.resolve path).map Place.entry with
  | .ok (.file content) => some content
  | _ => none

/-! ### Links -/

namespace GitLink

/-- The first line of a file, if there is one and it is valid UTF-8. -/
def firstLine? (content : ByteArray) : Option (List Char) :=
  (IgnoreRule.lines content.data.toList).head?.bind IgnoreRule.lineText?

/-- The folder that a file `.git` names. -/
def folder? (link : ByteArray) : Option String := do
  let line ← firstLine? link
  return String.ofList (← afterFront? "gitdir: ".toList line)

/-- The file in a linked folder that names the folder with the rules. -/
def sharedFile (folder : String) : String := under folder "commondir"

/-- The folder that the file `commondir` in a linked folder names. -/
def shared? (folder : String) (content : ByteArray) : Option String := do
  let line ← firstLine? content
  let name := String.ofList line
  return if line.head? = some '.' then under folder name else name

/-- The file with the rules, in the folder that has them. -/
def ruleFile (shared : String) : String := under shared "info/exclude"

/-- The content of the file with the rules that a link leads to. -/
def rules? (here : Place) (link : ByteArray) : Option ByteArray := do
  let folder ← folder? link
  let shared ← shared? folder (← here.contentOf? (sharedFile folder))
  here.contentOf? (ruleFile shared)

end GitLink

/-! ### Rules -/

/-- The rules of a folder. -/
structure FolderRules where
  /-- Those in `.ignore`. -/
  plain : List IgnoreRule
  /-- Those in `.gitignore`. -/
  git : List IgnoreRule
  /-- Those that are excluded. -/
  excluded : List IgnoreRule

namespace FolderRules

/-- The content of the file with what is excluded in a folder. -/
def excluded? (here : Place) (f : Folder) : Option ByteArray :=
  match f.find? ".git" with
  | some (.folder git) => (git.folderOf? "info").bind (·.contentOf? "exclude")
  | some (.file link) => GitLink.rules? here link
  | none => none

/-- The rules of a folder; links are followed from `here`. -/
def ofFolder (here : Place) (f : Folder) : FolderRules :=
  let read (content : Option ByteArray) := (content.map IgnoreRule.ofBytes).getD []
  { plain := read (f.contentOf? ".ignore")
    git := read (f.contentOf? ".gitignore")
    excluded := read (excluded? here f) }

end FolderRules

end Estree.Files
