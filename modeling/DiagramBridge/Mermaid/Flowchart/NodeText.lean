import DiagramBridge.Diagram.Vocabulary
import DiagramBridge.Mermaid.LabelText
import DiagramBridge.Text.Search
import DiagramBridge.Text.Word

/-!
# Nodes as they stand in a flowchart

A node is written as its id, a bracketed label, or both; the brackets tell the shape. Behind the
brackets a style class may be named. Brackets that consist of two characters are tried before
their parts.
-/

namespace DiagramBridge.Mermaid.Flowchart

open Text

/-- The brackets of a shape. Class boxes and subgraphs have no brackets of their own and are
written as rectangles. -/
def brackets : Shape → String × String
  | .rectangle | .classBox | .subgraph => ("[", "]")
  | .rounded => ("(", ")")
  | .stadium => ("([", "])")
  | .subroutine => ("[[", "]]")
  | .cylinder => ("[(", ")]")
  | .hexagon => ("\x7b\x7b", "\x7d\x7d")
  | .diamond => ("\x7b", "\x7d")
  | .circle => ("((", "))")
  | .parallelogram => ("[/", "/]")
  | .asymmetric => (">", "]")

/-- The shapes in the order in which their brackets are tried. -/
def bracketedShapes : List Shape :=
  [.stadium, .subroutine, .cylinder, .parallelogram, .circle, .hexagon, .rectangle, .rounded,
    .diamond, .asymmetric]

/-- A node on a line. The id is empty if only brackets stand there. -/
structure NodeText where
  id : List Char
  bracket : Option (Shape × List Char)
  deriving DecidableEq

/-- A text without the style class named at its end, if one is. -/
def dropStyleClass (s : List Char) : List Char :=
  let name := s.reverse.takeWhile isWord
  if name.isEmpty then s
  else
    match beforeEnd? ":::" (s.reverse.dropWhile isWord).reverse with
    | some s => trimEnd s
    | none => s

/-- The text between the brackets of a shape, if it is not empty. -/
def insideBrackets? (shape : Shape) (s : List Char) : Option (List Char) := do
  let s ← after? (brackets shape).1 s
  let s ← beforeEnd? (brackets shape).2 s
  if s.isEmpty then none else some s

/-- The shape and the label of a bracketed text. -/
def bracket? (s : List Char) : Option (Shape × List Char) :=
  let s := dropStyleClass s
  bracketedShapes.findSome? fun shape =>
    (insideBrackets? shape s).map fun label => (shape, unquote label)

/-- Reads a node. Where brackets do not match, the word at the front is an id and the rest is
passed over. -/
def NodeText.read? (s : List Char) : Option NodeText :=
  let (id, rest) := spanWord (trim s)
  match bracket? (trimStart rest) with
  | some bracket => some ⟨id, some bracket⟩
  | none => if id.isEmpty then none else some ⟨id, none⟩

end DiagramBridge.Mermaid.Flowchart
