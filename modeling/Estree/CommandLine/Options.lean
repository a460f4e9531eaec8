import Estree.Console

/-!
# Options on the command line

An argument that starts with two hyphens is the long name of an option, one that starts with one
hyphen is a row of short names, and any other one is a path. Some options take a value, which is
attached or is the next argument; a value of its own must not look like an option. After two hyphens
alone, only paths follow.

Arguments are taken from left to right. The first one that asks for help or for the version, or that
is wrong, decides; only a conflict between options shows at the end.

## Main definitions

* `Options.take`: take one argument after the other;
* `Options.ofArguments`: what the arguments ask for.
-/

namespace Estree.CommandLine

/-- An option that is on or off. -/
inductive Switch where
  | all | walkNulls | stats | json | noProgress | failFast | strict | verbose | help | version
  deriving DecidableEq, Repr

/-- An option with a value. -/
inductive Setting where
  | level | collapse | find | color | ignore | jobs
  deriving DecidableEq, Repr

/-- What the name of an option stands for. -/
inductive OptionName where
  /-- An option that is on or off. -/
  | switch (s : Switch)
  /-- An option with a value. -/
  | setting (s : Setting)
  deriving DecidableEq, Repr

/-- What a long name stands for. -/
def OptionName.ofLong? : String → Option OptionName
  | "all" => some (.switch .all)
  | "walk-nulls" => some (.switch .walkNulls)
  | "stats" => some (.switch .stats)
  | "json" => some (.switch .json)
  | "no-progress" => some (.switch .noProgress)
  | "fail-fast" => some (.switch .failFast)
  | "strict" => some (.switch .strict)
  | "verbose" => some (.switch .verbose)
  | "help" => some (.switch .help)
  | "version" => some (.switch .version)
  | "level" => some (.setting .level)
  | "collapse" => some (.setting .collapse)
  | "find" => some (.setting .find)
  | "color" => some (.setting .color)
  | "ignore" => some (.setting .ignore)
  | "jobs" => some (.setting .jobs)
  | _ => none

/-- What a short name stands for. -/
def OptionName.ofShort? : Char → Option OptionName
  | 'a' => some (.switch .all)
  | 'v' => some (.switch .verbose)
  | 'h' => some (.switch .help)
  | 'V' => some (.switch .version)
  | 'L' => some (.setting .level)
  | 'I' => some (.setting .ignore)
  | 'j' => some (.setting .jobs)
  | _ => none

/-- What is wrong with arguments. -/
inductive UsageFault where
  /-- No option has this name. -/
  | unknownOption (name : String)
  /-- An option stands there without its value. -/
  | missingValue
  /-- An option that takes no value has one. -/
  | unneededValue (name : String)
  /-- An option that may be given once is given again. -/
  | repeated
  /-- A value is not one of those that the option takes. -/
  | invalidValue (value : String)
  /-- A path is empty. -/
  | emptyPath
  /-- A search and statistics cannot be asked for together. -/
  | conflict
  deriving DecidableEq, Repr

/-- The wording of a fault. -/
def UsageFault.message : UsageFault → String
  | .unknownOption name => "unexpected argument '" ++ name ++ "' found"
  | .missingValue => "a value is required for an option but none was supplied"
  | .unneededValue name => "unexpected value for '" ++ name ++ "' found; no more were expected"
  | .repeated => "an option cannot be used multiple times"
  | .invalidValue value => "invalid value '" ++ value ++ "'"
  | .emptyPath => "a value is required for '[PATHS]...' but none was supplied"
  | .conflict => "the argument '--find <REGEX>' cannot be used with '--stats'"

/-- Why no documents are looked at. -/
inductive Halt where
  /-- Help is asked for, in full or in short. -/
  | help (full : Bool)
  /-- The version is asked for. -/
  | version
  /-- The arguments are wrong. -/
  | wrong (fault : UsageFault)
  deriving DecidableEq, Repr

/-- What has been asked for. -/
structure Options where
  /-- The paths; without any, the current folder is meant. -/
  paths : List String := []
  /-- Are hidden and ignored entries wanted? -/
  all : Bool := false
  /-- The deepest level of outlines. -/
  level : Option Nat := none
  /-- The kinds of nodes that are shown without what is below them. -/
  collapse : List String := []
  /-- Are empty slots shown as `null` literals? -/
  walkNulls : Bool := false
  /-- The pattern for labels of nodes to be listed. -/
  find : Option String := none
  /-- Are statistics wanted? -/
  stats : Bool := false
  /-- Is the output to be JSON? -/
  json : Bool := false
  /-- When colours are wanted; `auto` if nothing is said. -/
  color : Option ColorMode := none
  /-- Patterns for names of entries that are not wanted. -/
  ignore : List String := []
  /-- How many documents may be read at once; zero if nothing is said. -/
  jobs : Option Nat := none
  /-- Is no progress bar wanted? -/
  noProgress : Bool := false
  /-- Is the first document that is not clean to be the last one that is walked? -/
  failFast : Bool := false
  /-- Does the exit code tell whether all was well with the documents? -/
  strict : Bool := false
  /-- Are more log messages wanted? -/
  verbose : Bool := false
  deriving DecidableEq, Repr

/-- Refuse arguments. -/
def refuse {α : Type} (fault : UsageFault) : Except Halt α := .error (.wrong fault)

/-- A number that fits in 64 bits; a plus sign may go before it. -/
def count? (text : String) : Option Nat :=
  let digits := if text.startsWith "+" then text.toList.tail else text.toList
  let value := digits.foldl (fun n c => n * 10 + (c.toNat - 48)) 0
  if digits.isEmpty || !digits.all Char.isDigit || 1 <<< 64 ≤ value then none else some value

namespace Options

/-- Turn an option on that must not be on. -/
def once (isOn : Bool) (o : Options) : Except Halt Options :=
  if isOn then refuse .repeated else .ok o

/-- Turn an option on. -/
def turnOn (o : Options) : Switch → Except Halt Options
  | .all => once o.all { o with all := true }
  | .walkNulls => once o.walkNulls { o with walkNulls := true }
  | .stats => once o.stats { o with stats := true }
  | .json => once o.json { o with json := true }
  | .noProgress => once o.noProgress { o with noProgress := true }
  | .failFast => once o.failFast { o with failFast := true }
  | .strict => once o.strict { o with strict := true }
  | .verbose => once o.verbose { o with verbose := true }
  | .help => .error (.help true)
  | .version => .error .version

/-- Give an option a value. -/
def set (o : Options) (s : Setting) (value : String) : Except Halt Options :=
  match s with
  | .level =>
    match count? value with
    | none => refuse (.invalidValue value)
    | some n => once o.level.isSome { o with level := some n }
  | .jobs =>
    match count? value with
    | none => refuse (.invalidValue value)
    | some n => once o.jobs.isSome { o with jobs := some n }
  | .color =>
    match ColorMode.ofName? value with
    | none => refuse (.invalidValue value)
    | some mode => once o.color.isSome { o with color := some mode }
  | .find => once o.find.isSome { o with find := some value }
  | .collapse => .ok { o with collapse := o.collapse ++ [value] }
  | .ignore => .ok { o with ignore := o.ignore ++ [value] }

/-- Add a path. -/
def addPath (o : Options) (path : String) : Except Halt Options :=
  if path.isEmpty then refuse .emptyPath else .ok { o with paths := o.paths ++ [path] }

/-- Take a row of short names. An option with a value takes what is left of the row, without an
equals sign; if nothing is left, the option is given back. -/
def takeShort (o : Options) : List Char → Except Halt (Options × Option Setting)
  | [] => .ok (o, none)
  | c :: rest =>
    match OptionName.ofShort? c with
    | none => refuse (.unknownOption (String.ofList ['-', c]))
    | some (.switch .help) => .error (.help false)
    | some (.switch s) =>
      match o.turnOn s with
      | .error halt => .error halt
      | .ok o => takeShort o rest
    | some (.setting s) =>
      match rest with
      | [] => .ok (o, some s)
      | '=' :: value | value => (o.set s (String.ofList value)).map (·, none)

/-- Take a long name, perhaps with a value after an equals sign. An option that has to have a value
and has none is given back. -/
def takeLong (o : Options) (text : List Char) : Except Halt (Options × Option Setting) :=
  let name := String.ofList (text.takeWhile (· != '='))
  let value? := (text.dropWhile (· != '=')).tail?.map String.ofList
  match OptionName.ofLong? name, value? with
  | none, _ => refuse (.unknownOption ("--" ++ name))
  | some (.switch _), some _ => refuse (.unneededValue ("--" ++ name))
  | some (.switch s), none => (o.turnOn s).map (·, none)
  | some (.setting s), some value => (o.set s value).map (·, none)
  | some (.setting s), none => .ok (o, some s)

/-- Take an argument; an option whose value is still to come is given back. -/
def takeOne (o : Options) (arg : String) : Except Halt (Options × Option Setting) :=
  match arg.toList with
  | '-' :: '-' :: rest => o.takeLong rest
  | '-' :: c :: rest => o.takeShort (c :: rest)
  | _ => (o.addPath arg).map (·, none)

/-- Can an argument be the value of the option before it? -/
def isValue (arg : String) : Bool := arg = "-" || !arg.startsWith "-"

/-- Take arguments. -/
def take (o : Options) : List String → Except Halt Options
  | [] => .ok o
  | arg :: rest =>
    if arg = "--" then rest.foldlM addPath o
    else
      match o.takeOne arg with
      | .error halt => .error halt
      | .ok (o, none) => take o rest
      | .ok (o, some s) =>
        match rest with
        | [] => refuse .missingValue
        | value :: rest =>
          if isValue value then
            match o.set s value with
            | .error halt => .error halt
            | .ok o => take o rest
          else refuse .missingValue

/-- What the arguments ask for. -/
def ofArguments (args : List String) : Except Halt Options := do
  let o ← take {} args
  if o.find.isSome && o.stats then refuse .conflict
  return { o with paths := if o.paths.isEmpty then ["."] else o.paths }

/-- When colours are wanted. -/
def colorMode (o : Options) : ColorMode := o.color.getD .auto

end Options

end Estree.CommandLine
