import Estree.Outline
import Estree.Styled

/-!
# Outlines as text

Every entry is written on one line, with the lines of the tree in front of it.
-/

namespace Estree.Outline

/-- What stands in front of the connector of an entry: a rail for each ancestor that has nodes after
it, and blanks below the others. The root has no connector, and no rail is drawn for it. -/
def Entry.rails (e : Entry) : String :=
  e.ancestorsLast.foldr (fun last out => out ++ if last then "    " else "│   ") ""

/-- What joins an entry to its parent. -/
def Entry.connector (e : Entry) : String := if e.isLast then "└── " else "├── "

/-- How the kind of an entry looks: placeholders stand back, and the root stands out. -/
def Entry.kindStyle (e : Entry) : Style :=
  if e.synthetic then { color := some .magenta, dimmed := true }
  else if e.depth = 0 then { color := some .blue, bold := true }
  else { color := some .cyan }

/-- The text of an entry and its end of line; `counts` tells whether hidden children are counted. -/
def Entry.spans (counts : Bool) (e : Entry) : Styled :=
  (if 0 < e.depth then [.plain (e.rails ++ e.connector)] else [])
    ++ [.styled e.kindStyle e.kind.name]
    ++ (e.label.map fun label => Span.styled { color := some .green } (" " ++ label)).toList
    ++ (if 0 < e.hidden && counts then
        [.styled { color := some .yellow } (" (+" ++ toString e.hidden ++ " hidden)")] else [])
    ++ [.plain "\n"]

/-- The text of an outline. A walk that was stopped is mentioned at the end. -/
def spans (counts : Bool) (o : Outline) : Styled :=
  (o.entries.toList.flatMap (Entry.spans counts))
    ++ if o.canceled then [.styled { color := some .yellow } "(walk canceled)\n"] else []

/-- The text of an outline below a title, with an empty line at the end. -/
def titledSpans (title : String) (counts : Bool) (o : Outline) : Styled :=
  [.styled { bold := true } (title ++ "\n")] ++ o.spans counts ++ [.plain "\n"]

/-- A number with the word for what is counted. -/
def counted (n : Nat) (one many : String) : String :=
  toString n ++ " " ++ if n = 1 then one else many

/-- The line that closes a list of outlines. -/
def summary (documents nodes : Nat) : String :=
  counted documents "document" "documents" ++ ", " ++ counted nodes "node" "nodes" ++ "\n"

end Estree.Outline
