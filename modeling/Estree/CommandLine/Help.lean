/-!
# Help on the command line

What the program does, and a list of its arguments, each with what it is for. In short, an argument
takes one line, and what is said of it starts at the same place in all lines. In full, it takes a
paragraph, and the values that it may have are explained.
-/

namespace Estree.CommandLine

/-- What is said of an argument. -/
structure HelpItem where
  /-- How it is written; without a short name, there are blanks in the place of one. -/
  form : String
  /-- What it is for, in short. -/
  text : String
  /-- What it is for, in full, if that differs. -/
  fullText : Option String := none
  /-- The values that it may have, and what they mean. -/
  choices : List (String × String) := []
  /-- The value that it has if nothing is said. -/
  byDefault : Option String := none

namespace HelpItem

/-- A text in so many characters at least. -/
def padded (width : Nat) (text : String) : String :=
  text ++ String.ofList (List.replicate (width - text.length) ' ')

/-- A note on the default. -/
def defaultNote (i : HelpItem) : List String :=
  i.byDefault.toList.map fun value => "[default: " ++ value ++ "]"

/-- A note on the values. -/
def choiceNote (i : HelpItem) : List String :=
  if i.choices.isEmpty then []
  else ["[possible values: " ++ ", ".intercalate (i.choices.map Prod.fst) ++ "]"]

/-- The line on an argument; forms take up to `width` characters. -/
def short (width : Nat) (i : HelpItem) : String :=
  " ".intercalate (("  " ++ padded width i.form ++ " ") :: i.text :: i.defaultNote ++ i.choiceNote)

/-- The start of a line in a paragraph. -/
def margin : String := "          "

/-- The paragraph on the values. -/
def choiceLines (i : HelpItem) : List String :=
  let width := (i.choices.map (·.1.length)).foldl max 0
  if i.choices.isEmpty then []
  else
    let lines := i.choices.map fun (value, meaning) =>
      margin ++ "- " ++ padded (width + 2) (value ++ ": ") ++ meaning
    ["\n".intercalate ((margin ++ "Possible values:") :: lines)]

/-- The paragraphs on an argument. -/
def full (i : HelpItem) : String :=
  let start := "  " ++ i.form ++ "\n" ++ margin ++ i.fullText.getD i.text
  "\n\n".intercalate (start :: i.choiceLines ++ i.defaultNote.map (margin ++ ·))

end HelpItem

namespace Help

/-- The paths. -/
def paths : HelpItem where
  form := "[PATHS]..."
  text := "ESTree JSON files or directories to scan for them"
  byDefault := some "."

/-- The options. -/
def options : List HelpItem := [
  { form := "-a, --all"
    text := "Include hidden files and files excluded by .gitignore" },
  { form := "-L, --level <LEVEL>"
    text := "Descend only N levels deep" },
  { form := "    --collapse <KIND>"
    text := "Show nodes of KIND without their subtree (can be used multiple times)" },
  { form := "    --walk-nulls"
    text := "Show absent child slots as \x60null\x60 literals" },
  { form := "    --find <REGEX>"
    text := "List nodes whose label matches REGEX instead of the outline" },
  { form := "    --stats"
    text := "Show node kind statistics instead of the outline" },
  { form := "    --json"
    text := "Output in JSON format" },
  { form := "    --color <WHEN>"
    text := "Control color output: auto, always, never"
    choices := [("auto", "Auto-detect based on terminal and environment"),
      ("always", "Always use colors"), ("never", "Never use colors")]
    byDefault := some "auto" },
  { form := "-I, --ignore <IGNORE>"
    text := "Ignore files matching pattern (can be used multiple times)" },
  { form := "-j, --jobs <JOBS>"
    text := "Number of parallel workers for parsing (0 = auto-detect, 1 = sequential, " ++
      "N = use N workers)"
    byDefault := some "0" },
  { form := "    --no-progress"
    text := "Do not draw a progress bar on stderr" },
  { form := "    --fail-fast"
    text := "Stop walking further documents after the first unknown node kind" },
  { form := "    --strict"
    text := "Exit with status 2 if any document failed to load or had unknown kinds" },
  { form := "-v, --verbose"
    text := "Log lifecycle events to stderr (overridden by ESWALK_LOG)" },
  { form := "-h, --help"
    text := "Print help (see more with '--help')"
    fullText := some "Print help (see a summary with '-h')" },
  { form := "-V, --version"
    text := "Print version" }]

/-- The lines on some arguments. -/
def shortList (items : List HelpItem) : String :=
  let width := (items.map (·.form.length)).foldl max 0
  "\n".intercalate (items.map (·.short width))

/-- The paragraphs on some arguments. -/
def fullList (items : List HelpItem) : String := "\n\n".intercalate (items.map HelpItem.full)

/-- What is said when help is asked for. -/
def text (isFull : Bool) : String :=
  let list := if isFull then fullList else shortList
  String.join [
    "Walk ESTree JSON syntax trees and print their outline\n\n",
    "Usage: eswalk [OPTIONS] [PATHS]...\n\n",
    "Arguments:\n", list [paths], "\n\n",
    "Options:\n", list options, "\n"]

end Help

end Estree.CommandLine
