import DiagramBridge.Diagram.Layout
import DiagramBridge.Drawio.Cell
import DiagramBridge.Drawio.CellId
import DiagramBridge.Drawio.Label
import DiagramBridge.Drawio.Payload
import DiagramBridge.Drawio.Style
import DiagramBridge.Operation
import DiagramBridge.Xml.Writer

/-!
# Writing drawings

A graph becomes a drawing of one page. Nodes without a usable box are laid out first. Every node is
a cell, and so is every valid edge; a class with members is a container, as high as its rows need,
with a cell for every member. The page is kept as markup or as a payload.

Whoever keeps a graph and draws it finds it laid out afterwards, unless every node had a usable box
already. Then boxes and cell ids are taken as they are found, and the drawing ends where one of them
is missing.
-/

namespace DiagramBridge.Drawio

open Xml

/-- The height of the title of a class. -/
def titleHeight : Nat := 30

/-- The height of the row of a member. -/
def rowHeight : Nat := 26

def leastClassHeight : Nat := 60

/-- The height of a class with so many members. -/
def classHeight (memberCount : Nat) : Nat :=
  max leastClassHeight (titleHeight + rowHeight * memberCount)

/-- An element without character data. -/
def element (tag : String) (attributes : List (String × String)) (children : List Element) :
    Element :=
  .mk tag attributes "" children

/-- The element of a box. -/
def geometryElement (g : Geometry) : Element :=
  element geometryTag
    [("x", String.ofList g.x.text), ("y", String.ofList g.y.text),
      ("width", String.ofList g.width.text), ("height", String.ofList g.height.text),
      ("as", "geometry")] []

/-- The cell of something visible. -/
def vertexCell (id label style parent : String) (box : Option Geometry) : Element :=
  element cellTag
    [("id", id), ("value", cellValueString label), ("style", style), ("vertex", "1"),
      ("parent", parent)]
    (box.map geometryElement).toList

def memberCellId (cellId : String) (i : Nat) : String :=
  cellId ++ "-member-" ++ decimalString i

/-- The box of a member inside a class of the given width. -/
def memberBox (width : Coord) (i : Nat) : Geometry where
  x := .whole 0
  y := .whole (titleHeight + rowHeight * i : Nat)
  width := width
  height := .whole rowHeight

def memberCell (cellId : String) (box : Option Geometry) (member : String) (i : Nat) : Element :=
  vertexCell (memberCellId cellId i) member memberStyle cellId
    (box.map fun box => memberBox box.width i)

/-- The cells of a class with members. -/
def classCells (cellId : String) (n : Node) : List Element :=
  let height := Coord.whole (classHeight n.members.length)
  let box := n.geometry.map fun box => { box with height }
  vertexCell cellId n.label (vertexStyle n.shape) "1" box ::
    n.members.zipIdx.map fun (member, i) => memberCell cellId n.geometry member i

def nodeCells (cellId : String) (n : Node) : List Element :=
  if n.kind = .classLike ∧ n.members ≠ [] then classCells cellId n
  else [vertexCell cellId n.label (vertexStyle n.shape) "1" n.geometry]

/-- The cell of an edge between two cells. -/
def edgeCell (cellId source target : String) (e : Edge) : Element :=
  element cellTag
    [("id", cellId), ("value", cellValueString e.label),
      ("style", edgeStyle e.lineStyle e.arrowEnd e.relation), ("edge", "1"), ("parent", "1"),
      ("source", source), ("target", target)]
    [element geometryTag [("relative", "1"), ("as", "geometry")] []]

/-- The cells of the page itself and of its first layer. -/
def rootCells : List Element :=
  [element cellTag [("id", "0")] [], element cellTag [("id", "1"), ("parent", "0")] []]

/-- The cells of the edges of a graph whose nodes have the given cell ids. -/
def edgeCells (ids : List (String × String)) (edges : List Edge) : List Element :=
  let edgeIds := assignEdgeIds (ids.map (·.2) ++ rootIds) 0 (edges.map (·.id))
  (edges.zip edgeIds).map fun (e, cellId) =>
    edgeCell cellId (lookupCellId ids e.source) (lookupCellId ids e.target) e

/-- The graph model of a graph in which every node has a usable box. -/
def modelOfPlaced (g : Graph) : Element :=
  let ids := cellIds g.nodeIds
  element modelTag []
    [element rootTag []
      (rootCells ++ g.nodes.flatMap (fun n => nodeCells (lookupCellId ids n.id) n) ++
        edgeCells ids g.validEdges)]

def model (g : Graph) : Element :=
  modelOfPlaced g.layout

/-- The page that holds a graph model, as markup or as a payload. -/
def pageElement (name : String) (compress : Bool) (model : Element) : Element :=
  let attributes := [("id", "page-1"), ("name", name)]
  if compress then
    .mk pageTag attributes (String.ofList (Payload.encode model.inlineText)) []
  else element pageTag attributes [model]

/-- The name of a page that is not given one. -/
def defaultPageName : String := "Page-1"

/-- The drawing of a graph. -/
def write (g : Graph) (compress : Bool) (pageName : String) : String :=
  (element fileTag [("host", "interchange")] [pageElement pageName compress (model g)]).indented

/-! ## Drawing a graph that is kept -/

/-- What can be missing when a graph is drawn. -/
inductive Gap where
  /-- The box of a node. -/
  | box (id : String)
  /-- The cell of a node or of an end of an edge. -/
  | cell (id : String)
  deriving DecidableEq, Repr

/-- The cell id of a node, if it has been given one. -/
def findCellId (ids : List (String × String)) (id : String) : Except Gap String :=
  match ids.lookup id with
  | some cellId => .ok cellId
  | none => .error (.cell id)

/-- The cells of a node that has a box. -/
def findNodeCells (ids : List (String × String)) (n : Node) : Except Gap (List Element) := do
  let cellId ← findCellId ids n.id
  match n.geometry with
  | some _ => return nodeCells cellId n
  | none => .error (.box n.id)

/-- The cell of an edge both ends of which have cells. -/
def findEdgeCell (ids : List (String × String)) (cellId : String) (e : Edge) :
    Except Gap Element := do
  let source ← findCellId ids e.source
  let target ← findCellId ids e.target
  return edgeCell cellId source target e

/-- The graph model of a graph as it stands. -/
def findModel (g : Graph) : Except Gap Element := do
  let ids := cellIds g.nodeIds
  let nodes ← g.nodes.mapM (findNodeCells ids)
  let edgeIds := assignEdgeIds (ids.map (·.2) ++ rootIds) 0 (g.validEdges.map (·.id))
  let edges ← (g.validEdges.zip edgeIds).mapM fun (e, cellId) => findEdgeCell ids cellId e
  return element modelTag [] [element rootTag [] (rootCells ++ nodes.flatten ++ edges)]

/-- Draws a graph, which is laid out before if it has to be. -/
def draw (compress : Bool) (pageName : String) : Operation Notice Gap Graph String := do
  let given ← Operation.look
  if given.nodes.any (!·.isPlaced) then
    Operation.change Graph.layout
  let g ← Operation.look
  match findModel g with
  | .ok model =>
    return (element fileTag [("host", "interchange")] [pageElement pageName compress model]).indented
  | .error gap => Operation.fail gap

end DiagramBridge.Drawio
