import DiagramBridge.Mermaid.Identifier

/-!
# Writing sequence diagrams

Every node is declared, a circle as an actor, with its label unless that is the id; every valid
edge becomes a message. A message has some text in any case.
-/

namespace DiagramBridge.Mermaid.Sequence

open Text

def messageArrow : LineStyle → String
  | .plain | .thick => "->>"
  | .dashed => "-->>"

/-- The line that declares a node under its Mermaid id. -/
def participantLine (id : String) (n : Node) : List Char :=
  let label := collapse n.label.toList
  "    ".toList ++ (if n.shape = .circle then "actor" else "participant").toList ++
    ' ' :: id.toList ++
    if label.isEmpty || label == id.toList then [] else " as ".toList ++ label

def messageText (e : Edge) : List Char :=
  let label := collapse e.label.toList
  if label.isEmpty then "message".toList else label

/-- The line of a message between two Mermaid ids. -/
def messageLine (source target : String) (e : Edge) : List Char :=
  "    ".toList ++ source.toList ++ (messageArrow e.lineStyle).toList ++ target.toList ++
    ": ".toList ++ messageText e

/-- The lines of a graph. -/
def write (g : Graph) : List (List Char) :=
  let ids := idMap g
  "sequenceDiagram".toList ::
    g.nodes.map (fun n => participantLine (lookupId ids n.id) n) ++
    g.validEdges.map fun e => messageLine (lookupId ids e.source) (lookupId ids e.target) e

end DiagramBridge.Mermaid.Sequence
