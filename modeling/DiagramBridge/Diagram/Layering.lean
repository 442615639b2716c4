import DiagramBridge.Diagram.Graph

/-!
# Layers

The nodes of a graph stand in layers. The first layer holds the nodes that no valid edge enters, or
the first node where every node is entered; each further layer holds what the layer before leads to
and no layer so far holds, in the order in which the edges lead there. Nodes that are reached from
nowhere join the last layer.
-/

namespace DiagramBridge.Graph

/-- The ends of the edges that leave a node, in order. -/
def successors (edges : List Edge) (id : String) : List String :=
  (edges.filter (·.source == id)).map (·.target)

/-- The nodes that no valid edge enters, or the first node if there is no such node. -/
def roots (g : Graph) : List String :=
  match g.nodeIds.filter fun id => !g.validEdges.any (·.target == id) with
  | [] => g.nodeIds.take 1
  | ids => ids

/-- The ids that have not been seen, each once, where it comes first. -/
def unseen (seen : List String) : List String → List String
  | [] => []
  | id :: ids =>
    if seen.contains id then unseen seen ids else id :: unseen (id :: seen) ids

/-- The layer behind a layer. -/
def nextLayer (edges : List Edge) (seen layer : List String) : List String :=
  unseen seen (layer.flatMap (successors edges))

/-- A layer and the layers behind it. Each takes a node at least, so as much fuel as there are nodes
suffices. -/
def layersFrom (edges : List Edge) : Nat → List String → List String → List (List String)
  | 0, _, layer => [layer]
  | fuel + 1, seen, layer =>
    match nextLayer edges seen layer with
    | [] => [layer]
    | next => layer :: layersFrom edges fuel (next ++ seen) next

/-- Rows of which the last is lengthened. -/
def extendLast {α : Type} (more : List α) : List (List α) → List (List α)
  | [] => []
  | [row] => [row ++ more]
  | row :: rows => row :: extendLast more rows

/-- The layers that edges lead to from the first one. -/
def reachedLayers (g : Graph) : List (List String) :=
  layersFrom g.validEdges g.nodes.length g.roots g.roots

/-- The nodes that no layer holds yet, in order. -/
def unreached (g : Graph) : List String :=
  g.nodeIds.filter fun id => !g.reachedLayers.any (·.contains id)

/-- All layers. A graph without nodes has none. -/
def layers (g : Graph) : List (List String) :=
  if g.nodes.isEmpty then [] else extendLast g.unreached g.reachedLayers

end DiagramBridge.Graph
