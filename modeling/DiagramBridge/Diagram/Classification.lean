import DiagramBridge.Diagram.Graph
import DiagramBridge.Text.Search

/-!
# Guessing the diagram type

A graph says little about the notation that suits it. The guess goes by words: an edge that speaks of
messages makes a sequence diagram; failing that, a class or a node that speaks of classes makes a
class diagram; all else is a flowchart. Capital letters count.
-/

namespace DiagramBridge

open Text

/-- Words on edges that speak of messages. -/
def messageWords : List String := ["request", "response", "call"]

/-- Words on nodes that speak of classes. -/
def classWords : List String := ["class", "interface"]

def mentionsAny (wordList : List String) (s : String) : Bool :=
  wordList.any fun word => occursIn word.toList s.toList

/-- The diagram type that suits a graph best. -/
def Graph.guessType (g : Graph) : DiagramType :=
  if g.edges.any fun e => mentionsAny messageWords e.label then .sequence
  else if g.nodes.any fun n => n.kind = .classLike || mentionsAny classWords n.label then
    .classDiagram
  else .flowchart

end DiagramBridge
