import DiagramBridge.Diagram.Graph
import DiagramBridge.Text.Blank

/-!
# Labels as they are written and read

In a flowchart a label keeps its line breaks as tags. It is quoted when it has a character that
would end the label early; a double quote inside is written by name. In the other notations a label
is one line.

Reading a label takes one pair of double quotes away, together with the white space inside and
outside.
-/

namespace DiagramBridge.Mermaid

open Text

/-! ## Quotation marks -/

/-- The text between a double quote at the front and another at the end, if both are there. -/
def betweenQuotes? (s : List Char) : Option (List Char) :=
  match s with
  | '"' :: r =>
    match r.reverse with
    | '"' :: inner => some inner.reverse
    | _ => none
  | _ => none

/-- A label without its quotes and without surrounding white space. -/
def unquote (s : List Char) : List Char :=
  let s := trim s
  trim ((betweenQuotes? s).getD s)

/-! ## Writing labels -/

/-- A character that a label can only have between quotes. -/
def needsQuotes (c : Char) : Bool :=
  "()[]\x7b\x7d<>|\"#;:&".toList.contains c

/-- A character inside a quoted label. -/
def quotedLabelChar (c : Char) : List Char :=
  if c = '"' then "#quot;".toList else [c]

/-- The lines of a label, joined by line-break tags. -/
def withBreaks (ls : List (List Char)) : List Char :=
  List.intercalate "<br/>".toList ls

/-- A label between the brackets of a node or the bars of an arrow. -/
def labelText (label : List Char) : List Char :=
  if label.any needsQuotes then
    '"' :: withBreaks ((lines label).map (·.flatMap quotedLabelChar)) ++ ['"']
  else
    withBreaks (lines label)

/-- What a node shows: a class with members shows them below its name, and a node without a label
shows its id. -/
def nodeLabel (n : Node) : List Char :=
  if n.kind = .classLike ∧ n.members ≠ [] then
    unlines (n.label.toList :: n.members.map String.toList)
  else if n.label = "" then n.id.toList
  else n.label.toList

end DiagramBridge.Mermaid
