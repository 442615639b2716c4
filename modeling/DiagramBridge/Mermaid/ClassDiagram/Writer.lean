import DiagramBridge.Drawio.Style
import DiagramBridge.Mermaid.ClassDiagram.Relation
import DiagramBridge.Mermaid.Identifier

/-!
# Writing class diagrams

Every node is declared as a class, with its label unless that is the id and with its members as a
body. Every valid edge becomes a relation; an edge that has none takes the one that its style draws.
-/

namespace DiagramBridge.Mermaid.ClassDiagram

open Text

/-- A label between double quotes, in which it can have none. -/
def unquotable (label : List Char) : List Char :=
  label.map fun c => if c = '"' then '\'' else c

/-- The line that declares a node under its Mermaid id, up to the body. -/
def declarationLine (id : String) (n : Node) : List Char :=
  let label := collapse n.label.toList
  "    class ".toList ++ id.toList ++
    if label.isEmpty || label == id.toList then []
    else "[\"".toList ++ unquotable label ++ "\"]".toList

/-- The lines of a class: its declaration and its body. -/
def classLines (id : String) (n : Node) : List (List Char) :=
  if n.members.isEmpty then [declarationLine id n]
  else
    (declarationLine id n ++ " \x7b".toList) ::
      n.members.map (fun m => "        ".toList ++ collapse m.toList) ++ ["    \x7d".toList]

/-- The relation that an edge is written with. -/
def edgeRelation (e : Edge) : Relation :=
  e.relation.getD (Drawio.relationOf e.style)

/-- The line of a relation between two Mermaid ids. -/
def relationLine (source target : String) (e : Edge) : List Char :=
  "    ".toList ++ source.toList ++ ' ' :: (relationToken (edgeRelation e)).toList ++
    ' ' :: target.toList ++
    if e.label = "" then [] else " : ".toList ++ collapse e.label.toList

/-- The lines of a graph. -/
def write (g : Graph) : List (List Char) :=
  let ids := idMap g
  "classDiagram".toList ::
    g.nodes.flatMap (fun n => classLines (lookupId ids n.id) n) ++
    g.validEdges.map fun e => relationLine (lookupId ids e.source) (lookupId ids e.target) e

end DiagramBridge.Mermaid.ClassDiagram
