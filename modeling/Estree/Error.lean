import Estree.Json.Fault

/-!
# What can go wrong

Walking a tree never fails. Errors come from reading documents and from patterns that are not
well-formed.
-/

namespace Estree

/-- Why a file could not be read. -/
inductive ReadFailure where
  /-- A path given to a search names nothing. -/
  | absent
  /-- A path given to be read names nothing. -/
  | noSuchFile
  /-- The path names a directory. -/
  | isDirectory
  /-- The path leads through something that is no directory. -/
  | notDirectory
  /-- A name in the path, or the path, is longer than paths may be. -/
  | nameTooLong
  /-- There is a null character in the path, which ends paths. -/
  | nullCharacter
  /-- The content is not text in UTF-8. -/
  | invalidUtf8
  deriving DecidableEq, Repr

/-- The wording of a failure. -/
def ReadFailure.message : ReadFailure → String
  | .absent => "No such file or directory"
  | .noSuchFile => "No such file or directory (os error 2)"
  | .isDirectory => "Is a directory (os error 21)"
  | .notDirectory => "Not a directory (os error 20)"
  | .nameTooLong => "File name too long (os error 36)"
  | .nullCharacter => "file name contained an unexpected NUL byte"
  | .invalidUtf8 => "stream did not contain valid UTF-8"

/-- Why a name pattern is not well-formed. -/
inductive GlobFault where
  /-- A run of more than two stars. -/
  | starRun
  /-- Two stars that are not a whole component of a path. -/
  | partialComponent
  /-- A bracket that is not closed, or not closed in time. -/
  | invalidRange
  deriving DecidableEq, Repr

/-- The wording of a fault. -/
def GlobFault.message : GlobFault → String
  | .starRun => "wildcards are either regular \x60*\x60 or recursive \x60**\x60"
  | .partialComponent => "recursive wildcards must form a single path component"
  | .invalidRange => "invalid range pattern"

/-- Why a search pattern is refused. -/
inductive RegexFault where
  /-- It is not well-formed. -/
  | malformed
  /-- It describes too large an automaton. -/
  | tooLarge
  deriving DecidableEq, Repr

/-- The first line of the wording of a fault. -/
def RegexFault.message : RegexFault → String
  | .malformed => "regex parse error:"
  | .tooLarge => "Compiled regex exceeds size limit of 10485760 bytes."

/-- Why a request could not be answered. -/
inductive Error where
  /-- A file could not be read. -/
  | unreadable (path : String) (failure : ReadFailure)
  /-- A document is not JSON. -/
  | invalidJson (path : String) (error : Json.ParseError)
  /-- A document is JSON but its root is no node; the path is known when it came from a file. -/
  | rootNotNode (path : Option String)
  /-- A name pattern is not well-formed at some place. -/
  | invalidGlob (pattern : String) (position : Nat) (fault : GlobFault)
  /-- A search pattern is refused. -/
  | invalidRegex (pattern : String) (fault : RegexFault)
  deriving Repr

/-- The wording of an error. -/
def Error.message : Error → String
  | .unreadable path failure => "cannot read '" ++ path ++ "': " ++ failure.message
  | .invalidJson path error => "invalid JSON in '" ++ path ++ "': " ++ error.message
  | .rootNotNode path =>
    "not an ESTree document: " ++ (path.map (· ++ ": ")).getD ""
      ++ "root is not an object with a string \"type\""
  | .invalidGlob pattern position fault =>
    "invalid pattern '" ++ pattern ++ "': Pattern syntax error near position "
      ++ toString position ++ ": " ++ fault.message
  | .invalidRegex pattern fault => "invalid pattern '" ++ pattern ++ "': " ++ fault.message

end Estree
