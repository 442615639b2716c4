import DiagramBridge.Diagram.Graph
import DiagramBridge.Drawio.Cell
import DiagramBridge.Drawio.CellId
import DiagramBridge.Drawio.Label
import DiagramBridge.Drawio.Ordering
import DiagramBridge.Drawio.Style

/-!
# From cells to a graph

The cells of a page become nodes, edges and subgraphs. Two things are not what they look like. A
visible container that is no swimlane is one class with its children as members, from top to
bottom; a container without a label of its own takes its first member as its name. And a child of
an edge that cannot be connected is part of the label of that edge.

Parents and children may stand in any order: everything is looked up among all cells of the page.
-/

namespace DiagramBridge.Drawio

open Text

/-- The children of a cell: those that name it as their parent. The roots have none. -/
def childrenOf (cells : List Cell) (id : String) : List Cell :=
  if id = "" || rootIds.contains id then []
  else cells.filter fun c => c.parent == some id

/-- The cell with the given id. Of several the last counts. -/
def cellById? (cells : List Cell) (id : String) : Option Cell :=
  cells.reverse.find? (·.id == id)

/-- A container and its parts as one class. -/
structure Group where
  title : String
  members : List String
  deriving DecidableEq

/-- The visible children of a cell from top to bottom. -/
def rows (cells : List Cell) (id : String) : List Cell :=
  sortByKey (·.geometry.y.toReal) ((childrenOf cells id).filter (·.isVertex))

/-- The texts of some cells, without the empty ones. -/
def textsOf (cells : List Cell) : List String :=
  (cells.map fun c => cleanString c.value).filter (· != "")

/-- The group that a cell makes, if it is a container with texts to be members. -/
def groupOf? (cells : List Cell) (c : Cell) : Option Group :=
  if !c.isVertex || occursIn "swimlane".toList c.style.toList then none
  else
    match cleanString c.value, textsOf (rows cells c.id) with
    | _, [] => none
    | "", [_] => none
    | "", title :: members => some ⟨title, members⟩
    | title, members => some ⟨title, members⟩

/-- The group that goes by an id. Of several the last counts. -/
def groupById? (cells : List Cell) (id : String) : Option Group :=
  (cells.reverse.filter (·.id == id)).findSome? (groupOf? cells)

/-- Whether a visible child of a group has the given id. -/
def isConsumed (cells : List Cell) (id : String) : Bool :=
  cells.any fun c =>
    c.id == id && c.isVertex &&
      match c.parent with
      | some parent => parent != "" && !rootIds.contains parent && (groupById? cells parent).isSome
      | none => false

def isEdgeLabel (cells : List Cell) (c : Cell) : Bool :=
  c.isVertex && !c.isConnectable &&
    match cellById? cells (c.parent.getD "") with
    | some owner => owner.isEdge
    | none => false

/-- What a cell stands for. -/
inductive Role where
  | consumed
  | group (g : Group)
  | edgeLabel
  | node
  | edge
  | nothing
  deriving DecidableEq

/-- The role of a cell among the cells of its page. -/
def roleOf (cells : List Cell) (c : Cell) : Role :=
  if isConsumed cells c.id then .consumed
  else
    match groupById? cells c.id with
    | some g => .group g
    | none =>
      if isEdgeLabel cells c then .edgeLabel
      else if c.isVertex && c.parent != some "0" then .node
      else if c.isEdge || (c.source.getD "" != "" && c.target.getD "" != "") then .edge
      else .nothing

/-- The texts of the label cells of an edge, in document order. -/
def labelTexts (cells : List Cell) (id : String) : List String :=
  textsOf (cells.filter fun c => roleOf cells c = .edgeLabel && c.parent == some id)

/-- The label of an edge: its own text and those of its label cells, with spaces between. -/
def foldedLabel (cells : List Cell) (c : Cell) : String :=
  String.intercalate " " ((cleanString c.value :: labelTexts cells c.id).filter (· != ""))

/-- Adds to a graph what a cell stands for. -/
def addCell (cells : List Cell) (g : Graph) (c : Cell) : Graph :=
  match roleOf cells c with
  | .group group =>
    g.mention
      { id := c.id
        label := some group.title
        shape := some .classBox
        kind := .classLike
        members := group.members
        geometry := some c.geometry
        style := c.style }
  | .node =>
    g.mention
      { id := c.id
        label := some (cleanString c.value)
        shape := some (shapeOf c.style)
        geometry := some c.geometry
        style := c.style }
  | .edge =>
    g.link
      { source := c.source.getD ""
        target := c.target.getD ""
        label := foldedLabel cells c
        id := c.id
        lineStyle := lineStyleOf c.style
        arrowEnd := hasEndArrow c.style
        style := c.style }
  | .consumed | .edgeLabel | .nothing => g

/-- The subgraph that a container makes when it is no group. -/
def subgraphOf? (cells : List Cell) (g : Graph) (c : Cell) : Option Subgraph :=
  let children := childrenOf cells c.id
  if children.isEmpty || !c.isVertex || (groupById? cells c.id).isSome then none
  else
    some
      { id := c.id
        label := cleanString c.value
        nodes := (children.map (·.id)).filter g.hasNode }

/-- The graph of the cells of a page. -/
def extract (cells : List Cell) : Graph :=
  let g := cells.foldl (addCell cells) .empty
  (cells.filterMap (subgraphOf? cells g)).foldl Graph.addSubgraph g

end DiagramBridge.Drawio
