import DiagramBridge.Mermaid.Flowchart.Arrow
import DiagramBridge.Mermaid.Flowchart.NodeText
import DiagramBridge.Mermaid.Identifier
import DiagramBridge.Mermaid.LabelText

/-!
# Writing flowcharts

The header is followed by a line for every node and a line for every valid edge, each indented by
four spaces.
-/

namespace DiagramBridge.Mermaid.Flowchart

/-- The indentation of a statement. -/
def indent : List Char := "    ".toList

/-- The line of a node under its Mermaid id. -/
def nodeLine (id : String) (n : Node) : List Char :=
  indent ++ id.toList ++ (brackets n.shape).1.toList ++ labelText (nodeLabel n) ++
    (brackets n.shape).2.toList

/-- The arrow of an edge with its label, if it has one. -/
def arrowText (e : Edge) : List Char :=
  (arrowToken e.lineStyle e.arrowEnd).toList ++
    if e.label = "" then [] else '|' :: labelText e.label.toList ++ ['|']

/-- The line of an edge between two Mermaid ids. -/
def edgeLine (source target : String) (e : Edge) : List Char :=
  indent ++ source.toList ++ ' ' :: arrowText e ++ ' ' :: target.toList

/-- The lines of a graph. -/
def write (g : Graph) (direction : Direction) : List (List Char) :=
  let ids := idMap g
  ("flowchart ".toList ++ direction.name.toList) ::
    g.nodes.map (fun n => nodeLine (lookupId ids n.id) n) ++
    g.validEdges.map fun e => edgeLine (lookupId ids e.source) (lookupId ids e.target) e

end DiagramBridge.Mermaid.Flowchart
