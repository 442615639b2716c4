import DiagramBridge.Error
import DiagramBridge.Mermaid.ClassDiagram.Reader
import DiagramBridge.Mermaid.Flowchart.Reader
import DiagramBridge.Mermaid.Sequence.Reader
import DiagramBridge.Mermaid.Statements

/-!
# Reading Mermaid texts

The first statement may be a header, which names a diagram type by its beginning, in any letter
case; types whose statements are not modelled are read as flowcharts. If it is no header, the text is
a flowchart and its first statement is content already. A text without statements is refused, and so
is one that mentions no node.
-/

namespace DiagramBridge.Mermaid

open Text

/-- The words a header can begin with, in small letters, and the type each stands for. -/
def headers : List (String × DiagramType) :=
  [("flowchart", .flowchart), ("graph", .flowchart), ("sequencediagram", .sequence),
    ("classdiagram", .classDiagram), ("statediagram", .flowchart), ("erdiagram", .flowchart),
    ("gantt", .flowchart), ("pie", .flowchart), ("mindmap", .flowchart), ("journey", .flowchart),
    ("gitgraph", .flowchart), ("timeline", .flowchart)]

/-- The diagram type that a line names, if it is a header at all. -/
def headerType? (line : List Char) : Option DiagramType :=
  let line := lower line
  (headers.find? fun h => startsWith h.1 line).map (·.2)

/-- A graph and the notation it was written in. -/
structure Diagram where
  type : DiagramType
  graph : Graph

/-- The graph of the statements below a header of the given type. -/
def readBody : DiagramType → List (List Char) → Graph
  | .flowchart, body => Flowchart.read body
  | .sequence, body => Sequence.read body
  | .classDiagram, body => ClassDiagram.read body

def ofStatements (first : List Char) (rest : List (List Char)) : Diagram :=
  match headerType? first with
  | some type => { type, graph := readBody type rest }
  | none => { type := .flowchart, graph := Flowchart.read (first :: rest) }

/-- Reads a Mermaid text. -/
def read (text : String) : Except ConversionError Diagram :=
  match statements text.toList with
  | [] => .error .emptyMermaid
  | first :: rest =>
    let diagram := ofStatements first rest
    if diagram.graph.nodes.isEmpty then .error .noNodesInMermaid else .ok diagram

end DiagramBridge.Mermaid
