import Estree.Regex.Pattern
import Estree.Unicode.Property

/-!
# Ignore rules

An ignore file has one rule on each line. A rule is a pattern for paths below the folder of the
file; what it applies to is ignored or, if the rule starts with an exclamation mark, kept. A rule
with a slash at its end is for folders only. One with no other slash applies to names, wherever they
are, and any other one to paths from the folder of the file on.

A question mark stands for one byte that is no slash, a star for any number of them, two stars that
are a component of their own for any number of folders, brackets for one of the bytes of what is
listed in them, and braces for one of the patterns in them, which stand between commas. A backslash
takes the meaning from the character after it. Paths are matched byte by byte, so a character that
is no ASCII character counts as several.

## Main definitions

* `IgnoreRule.ofLine?`: the rule on a line, if there is a well-formed one;
* `IgnoreRule.ofBytes`: the rules of a file;
* `IgnoreRule.verdict?`: what several rules say of a path.
-/

namespace Estree.Files

open Unicode (CodeSet)
open Regex (Pattern)

/-! ### Patterns -/

/-- A part of the pattern of a rule. -/
inductive PathPart where
  /-- A character that stands for itself. -/
  | character (c : Char)
  /-- One byte, but no slash. -/
  | anyOne
  /-- Any bytes without a slash. -/
  | anyRun
  /-- One byte of a set. -/
  | oneOf (set : CodeSet)
  /-- Any folders, at the start. -/
  | foldersBefore
  /-- A slash, or any folders between two of them. -/
  | foldersBetween
  /-- A slash and anything after it. -/
  | anythingBelow
  /-- One of some patterns; with no patterns, nothing. -/
  | branches (patterns : List Pattern)

namespace PathPart

/-- The bytes of a character. -/
def bytesOf (c : Char) : List Nat := (String.utf8EncodeChar c).map UInt8.toNat

/-- All bytes. -/
def allBytes : CodeSet := ⟨[(0, 255)]⟩

/-- All bytes but the slash. -/
def nameBytes : CodeSet := allBytes.diff (.singleton '/'.toNat)

/-- Anything. -/
def anything : Pattern := .repeat (.one allBytes) 0 none

/-- A slash. -/
def slash : Pattern := .one (.singleton '/'.toNat)

/-- The bytes of a range of characters. The range goes from the last byte of one character to the
first byte of the other; the other bytes of the two stand beside it. -/
def rangeBytes (lo hi : Char) : List (Nat × Nat) :=
  let first := bytesOf lo
  let last := bytesOf hi
  let single (bytes : List Nat) := bytes.map fun b => (b, b)
  if lo = hi then single first
  else single first.dropLast ++ [(first.getLastD 0, last.headD 0)] ++ single last.tail

/-- What a part stands for. -/
def pattern : PathPart → Pattern
  | character c => (bytesOf c).foldr (fun b p => .seq (.one (.singleton b)) p) .empty
  | anyOne => .one nameBytes
  | anyRun => .repeat (.one nameBytes) 0 none
  | oneOf set => .one set
  | foldersBefore => .alt .empty (.alt slash (.seq anything slash))
  | foldersBetween => .alt slash (.seq slash (.seq anything slash))
  | anythingBelow => .seq slash anything
  | branches [] => .empty
  | branches (p :: ps) => ps.foldl .alt p

/-- Does a part stand for nothing? -/
def isNothing : PathPart → Bool
  | branches [] => true
  | _ => false

end PathPart

/-- What an opening bracket starts. -/
inductive Bracket where
  /-- The bytes that are listed, and what follows the closing bracket. -/
  | closed (set : CodeSet) (rest : List Char)
  /-- Nothing, for lack of a closing bracket. -/
  | unclosed
  /-- A range that ends before it starts. -/
  | invalid

/-- Read the text between brackets from some place on; `first` tells whether it starts there, and
`hyphen` whether a hyphen waits for the end of its range. The ranges read so far stand with the last
one in front. -/
def readRanges (first hyphen : Bool) (ranges : List (Char × Char)) : List Char → Bracket
  | [] => .unclosed
  | c :: rest =>
    if c = ']' && !first then
      let ranges := if hyphen then ('-', '-') :: ranges else ranges
      .closed (.ofRanges (ranges.flatMap fun (lo, hi) => PathPart.rangeBytes lo hi)) rest
    else if c = '-' && !first && !hyphen then readRanges false true ranges rest
    else
      match hyphen, ranges with
      | true, (lo, _) :: more =>
        if c < lo then .invalid else readRanges false false ((lo, c) :: more) rest
      | _, _ => readRanges false false ((c, c) :: ranges) rest

/-- Read what an opening bracket starts. -/
def readBracket (rest : List Char) : Bracket :=
  match rest with
  | '!' :: rest | '^' :: rest =>
    match readRanges true false [] rest with
    | .closed set rest => .closed (PathPart.allBytes.diff set) rest
    | other => other
  | rest => readRanges true false [] rest

/-- A pattern that is being read: some branches, the last of which is not finished. -/
structure PathDraft where
  /-- The parts of the last branch, the last one first. -/
  parts : List PathPart := []
  /-- The branches before it. -/
  branches : List Pattern := []

namespace PathDraft

/-- Add a part. -/
def add (d : PathDraft) (part : PathPart) : PathDraft := { d with parts := part :: d.parts }

/-- Finish the last branch. A branch that stands for nothing is left out. -/
def closed (d : PathDraft) : List Pattern :=
  if d.parts.all PathPart.isNothing then d.branches
  else d.branches ++ [(d.parts.map PathPart.pattern).foldl (fun p q => .seq q p) .empty]

/-- Put folders in the place of the slash before two stars. Folders that are there already stay. -/
def addFolders (d : PathDraft) (part : PathPart) : PathDraft :=
  match d.parts with
  | .foldersBefore :: _ | .anythingBelow :: _ => d
  | parts => { d with parts := part :: parts.tail }

/-- Two stars, after a character and before others: what they add, and how many characters more are
used up. -/
def addStars (d : PathDraft) (inBraces : Bool) (before : Option Char) (after : List Char) :
    PathDraft × Nat :=
  let plain := ((d.add .anyRun).add .anyRun, 0)
  let opensBranch := inBraces && before.any fun c => c = ',' || c = '\x7b'
  if d.parts.isEmpty then
    match after with
    | [] => (d.add .foldersBefore, 0)
    | '/' :: _ => (d.add .foldersBefore, 1)
    | _ => plain
  else if before != some '/' && !opensBranch then plain
  else
    match after with
    | [] => (d.addFolders .anythingBelow, 0)
    | '/' :: _ => (d.addFolders .foldersBetween, 1)
    | c :: _ =>
      if inBraces && (c = ',' || c = '\x7d') then (d.addFolders .anythingBelow, 0) else plain

end PathDraft

/-- Read a pattern; `none` if it is not well-formed. The first `skip` characters have been read;
`draft` is the innermost pair of braces, or the whole pattern, and `outer` is what is around it. -/
def readPath (skip : Nat) (before : Option Char) (draft : PathDraft) (outer : List PathDraft) :
    List Char → Option PathDraft
  | [] => if outer.isEmpty then some draft else none
  | c :: rest =>
    match skip with
    | skip + 1 => readPath skip (some c) draft outer rest
    | 0 =>
      let plain (part : PathPart) := readPath 0 (some c) (draft.add part) outer rest
      match c, rest with
      | '?', _ => plain .anyOne
      | '*', '*' :: after =>
        let (draft, more) := draft.addStars (!outer.isEmpty) before after
        readPath (1 + more) (some c) draft outer rest
      | '*', _ => plain .anyRun
      | '[', _ =>
        match readBracket rest with
        | .closed set after =>
          readPath (rest.length - after.length) (some c) (draft.add (.oneOf set)) outer rest
        | .unclosed => plain (.character c)
        | .invalid => none
      | '\x7b', _ => readPath 0 (some c) {} (draft :: outer) rest
      | '\x7d', _ =>
        match outer with
        | [] => none
        | around :: outer =>
          readPath 0 (some c) (around.add (.branches draft.closed)) outer rest
      | ',', _ =>
        if outer.isEmpty then plain (.character c)
        else readPath 0 (some c) { branches := draft.closed } outer rest
      | '\\', [] => none
      | '\\', d :: _ => readPath 1 (some c) (draft.add (.character d)) outer rest
      | c, _ => plain (.character c)

/-- The pattern for whole paths. Two stars alone stand for every path. -/
def pathPattern? (text : List Char) : Option Pattern :=
  (readPath 0 none {} [] text).map fun draft =>
    match draft.parts with
    | [.foldersBefore] => PathPart.anything
    | parts => .whole (parts.reverse.map PathPart.pattern)

/-! ### Rules -/

/-- A line of an ignore file. -/
structure IgnoreRule where
  /-- Is what it applies to kept? -/
  keeps : Bool
  /-- Does it apply to folders only? -/
  foldersOnly : Bool
  /-- The paths it applies to. -/
  pattern : Pattern

namespace IgnoreRule

/-- Remove the blanks at the end of a line, unless the last one is taken literally. -/
def trimEnd (line : List Char) : List Char :=
  if ['\\', ' '].isSuffixOf line then line
  else (line.reverse.dropWhile fun c => Unicode.blanks.contains c.toNat).reverse

/-- Take the exclamation mark from the start of a rule; tells whether there was one. A backslash
takes the meaning from it and from a number sign. -/
def takeMark : List Char → Bool × List Char
  | '\\' :: '!' :: rest => (false, '!' :: rest)
  | '\\' :: '#' :: rest => (false, '#' :: rest)
  | '!' :: rest => (true, rest)
  | line => (false, line)

/-- Take the slash from the start of a rule; tells whether there was one. -/
def takeFirstSlash : List Char → Bool × List Char
  | '/' :: rest => (true, rest)
  | line => (false, line)

/-- Take the slash from the end of a rule, with a backslash before it; tells whether there was a
slash. -/
def takeFinalSlash (line : List Char) : Bool × List Char :=
  if line.getLast? = some '/' then
    let line := line.dropLast
    (true, if line.getLast? = some '\\' then line.dropLast else line)
  else (false, line)

/-- The text of the pattern for whole paths. A pattern without a slash applies wherever a name is,
and one for all that is below a folder does not apply to the folder. -/
def pathText (anchored : Bool) (line : List Char) : List Char :=
  let text :=
    if anchored || line.contains '/' || line = ['*', '*'] then line else ['*', '*', '/'] ++ line
  if ['/', '*', '*'].isSuffixOf text then text ++ ['/', '*'] else text

/-- The rule on a line. Empty lines, comments and lines that are not well-formed have none. -/
def ofLine? (line : List Char) : Option IgnoreRule :=
  let line := trimEnd line
  if line.isEmpty || line.head? = some '#' then none
  else
    let (keeps, line) := takeMark line
    let (anchored, line) := takeFirstSlash line
    let (foldersOnly, line) := takeFinalSlash line
    (pathPattern? (pathText anchored line)).map fun pattern => { keeps, foldersOnly, pattern }

/-- The lines of a file, without their ends: a line feed, which may follow a carriage return. The
last line need not have an end. -/
def lines : List UInt8 → List (List UInt8)
  | [] => []
  | 10 :: rest => [] :: lines rest
  | 13 :: 10 :: rest => [] :: lines rest
  | b :: rest =>
    match lines rest with
    | [] => [[b]]
    | line :: more => (b :: line) :: more

/-- The text of a line; `none` if it is not valid UTF-8. -/
def lineText? (line : List UInt8) : Option (List Char) :=
  (String.fromUTF8? ⟨line.toArray⟩).map String.toList

/-- The texts of the lines, up to the first one that is not valid UTF-8. -/
def readableLines : List (List UInt8) → List (List Char)
  | [] => []
  | line :: rest =>
    match lineText? line with
    | none => []
    | some text => text :: readableLines rest

/-- The rules of a file. Marks for the byte order at its start are passed over. -/
def ofBytes (content : ByteArray) : List IgnoreRule :=
  match readableLines (lines content.data.toList) with
  | [] => []
  | first :: rest => ((first.dropWhile (· = '\ufeff')) :: rest).filterMap ofLine?

/-- The bytes of a text, each as a character of its own. -/
def byteText (s : String) : String :=
  String.ofList (s.toUTF8.data.toList.map fun b => Char.ofNat b.toNat)

/-- Does a rule apply to a path? -/
def applies (path : String) (isFolder : Bool) (r : IgnoreRule) : Bool :=
  (isFolder || !r.foldersOnly) && r.pattern.isMatch (byteText path)

/-- What rules say of a path: is it kept? The last rule that applies decides. -/
def verdict? (rules : List IgnoreRule) (path : String) (isFolder : Bool) : Option Bool :=
  (rules.reverse.find? (applies path isFolder)).map keeps

end IgnoreRule

end Estree.Files
