import Estree.CommandLine.Run

/-!
# The program

The part of the file system that the arguments lead to is read first; all else is a function of what
has been read.
-/

namespace Estree.Program

open Files (Folder Place)

/-- Read a file; one that cannot be read is as good as not there. -/
def readFile (path : String) : IO (Option ByteArray) :=
  try return some (← IO.FS.readBinFile path) catch _ => return none

/-- The names in the folder with the given path, each with whether it is a folder; `none` if the
path leads to no folder. -/
def readFolder (path : String) : IO (Option (List (String × Bool))) := do
  try
    let folder ← IO.FS.realPath path
    if !(← folder.isDir) then return none
    let entries ← folder.readDir
    return some (← entries.toList.mapM fun entry => return (entry.fileName, ← entry.path.isDir))
  catch _ => return none

/-- The names that lead from the top of the file system to the given path. -/
def namesTo (path : String) : IO (List String) := do
  let real ← IO.FS.realPath path
  return (Files.pathParts real.toString).filter (· != "")

/-- The path of a row of names. -/
def pathOf (names : List String) : String := "/" ++ "/".intercalate names

/-- Add the folders that a path leads through. -/
def addWay (top : Folder) (path : String) : IO Folder := do
  let parts := Files.pathParts path
  (List.range parts.length).foldlM (fun top n => do
    let way := "/".intercalate (parts.take n)
    match ← readFolder way with
    | none => return top
    | some _ => return top.putFolder (← namesTo way)) top

/-- Add the file that a path leads to, if there is one. -/
def addFile (top : Folder) (path : String) : IO Folder := do
  match ← readFile path with
  | none => return top
  | some content => return (← addWay top path).putFile content (← namesTo path)

/-- Add the files that a file `.git` leads to. -/
def addLinked (top : Folder) (link : ByteArray) : IO Folder := do
  match Files.GitLink.folder? link with
  | none => return top
  | some folder =>
    let file := Files.GitLink.sharedFile folder
    match ← readFile file with
    | none => return top
    | some content =>
      let top ← addFile top file
      match Files.GitLink.shared? folder content with
      | none => return top
      | some shared => addFile top (Files.GitLink.ruleFile shared)

/-- Add a file at a row of names, and what it leads to if it is a link. -/
def addContent (top : Folder) (names : List String) (content : ByteArray) : IO Folder := do
  let top := top.putFile content names
  if names.getLast? = some ".git" then addLinked top content else return top

/-- Add the ignore files of a folder. -/
def addIgnoreFiles (top : Folder) (names : List String) : IO Folder :=
  [[".ignore"], [".gitignore"], [".git"], [".git", "info", "exclude"]].foldlM (fun top file => do
    match ← readFile (pathOf (names ++ file)) with
    | none => return top
    | some content => addContent top (names ++ file) content) top

/-- Add all that is in a folder, up to some depth. -/
def addAll (depth : Nat) (top : Folder) (names : List String) : IO Folder := do
  match depth, ← readFolder (pathOf names) with
  | 0, _ | _, none => return top
  | depth + 1, some entries =>
    entries.foldlM (fun top (name, isFolder) => do
      let names := names ++ [name]
      if isFolder then addAll depth (top.putFolder names) names
      else
        match ← readFile (pathOf names) with
        | none => return top
        | some content => addContent top names content) (top.putFolder names)

/-- A depth that no folder has. -/
def depthLimit : Nat := 4096

/-- Add what a path leads to, and the ignore files around it. -/
def addPath (top : Folder) (path : String) : IO Folder := do
  try
    let names ← namesTo path
    let top ← (List.range names.length).foldlM (fun top n => addIgnoreFiles top (names.take n)) top
    match ← readFile (pathOf names) with
    | some content => return top.putFile content names
    | none => addAll depthLimit top names
  catch _ => return top

/-- The file system, as far as the paths lead into it, seen from the current folder. -/
def readPlace (paths : List String) : IO Place := do
  let current ← namesTo "."
  let top ← paths.foldlM (fun top path => do addPath (← addWay top path) path)
    (Folder.putFolder current .empty)
  let start : Place := { top }
  return (start.resolve (pathOf current)).toOption.getD start

/-- The environment variables that matter. -/
def readConsole : IO Console := do
  let environment ← ["TERM", "NO_COLOR", "FORCE_COLOR"].filterMapM fun name => do
    return (← IO.getEnv name).map (name, ·)
  return { environment := Dict.ofList environment
           outputIsTerminal := ← (← IO.getStdout).isTty
           messagesAreTerminal := ← (← IO.getStderr).isTty }

end Estree.Program

open Estree Program in
/-- Run the command line. -/
def main (args : List String) : IO UInt32 := do
  let paths :=
    match CommandLine.Options.ofArguments args with
    | .ok o => o.paths
    | .error _ => []
  let outcome := CommandLine.run (← readPlace paths) (← readConsole) args
  IO.eprint outcome.messages
  IO.print outcome.output
  return outcome.code.toUInt32
