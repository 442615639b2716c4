import DiagramBridge.Diagram.Geometry
import DiagramBridge.Number.Numeral
import DiagramBridge.Xml.Element

/-!
# Cells

A page of a drawing is a flat list of cells: nodes, edges, labels of edges, parts of groups. Each
cell says by itself what it is and names its parent. A cell may be wrapped in an element that
carries its id and its label; then the wrapper is asked first for everything, and the cell inside
for what the wrapper does not have. Elements without an id are no cells.
-/

namespace DiagramBridge.Drawio

open Xml

/-! ## The elements of a drawing -/

/-- The tag of a file of pages. A page holds a graph model, a graph model a root, and the root holds
the cells. -/
def fileTag : String := "mxfile"

def pageTag : String := "diagram"

/-- The tag of a graph model. -/
def modelTag : String := "mxGraphModel"

/-- The tag of the element around all cells. -/
def rootTag : String := "root"

def cellTag : String := "mxCell"

/-- The tag of the geometry of a cell. -/
def geometryTag : String := "mxGeometry"

/-- The tags of elements that can be wrapped around a cell. -/
def wrapperTags : List String := ["UserObject", "object"]

/-! ## Cells -/

/-- A cell with all that is said about it in one place. -/
structure Cell where
  id : String
  value : String
  style : String
  isVertex : Bool
  isEdge : Bool
  parent : Option String
  source : Option String
  target : Option String
  isConnectable : Bool
  geometry : Geometry
  deriving DecidableEq

/-- A text that is not empty. -/
def nonEmpty? : Option String → Option String
  | some "" => none
  | s => s

/-- A number in an attribute. A missing or unreadable number and zero give the default. -/
def lengthAttribute (e : Option Element) (name : String) (default : Binary64) : Binary64 :=
  match ((e.bind (·.attribute? name)).bind fun s => Numeral.readReal? s.toList) with
  | some x => if x.isZero then default else x
  | none => default

/-- The geometry of a cell. -/
def readGeometry (e : Option Element) : Geometry where
  x := .real (lengthAttribute e "x" (.ofInt 0))
  y := .real (lengthAttribute e "y" (.ofInt 0))
  width := .real (lengthAttribute e "width" (.ofInt 100))
  height := .real (lengthAttribute e "height" (.ofInt 60))

/-- The cell of an element with an optional cell inside it. -/
def Cell.ofElement? (e : Element) (inner : Option Element) : Option Cell := do
  let id ← nonEmpty? (e.attribute? "id")
  let get := fun name => (e.attribute? name).or (inner.bind (·.attribute? name))
  let geometry := (e.child? geometryTag).or (inner.bind (·.child? geometryTag))
  some
    { id
      value := ((nonEmpty? (e.attribute? "value")).or (e.attribute? "label")).getD ""
      style := (get "style").getD ""
      isVertex := get "vertex" == some "1"
      isEdge := get "edge" == some "1"
      parent := get "parent"
      source := get "source"
      target := get "target"
      isConnectable := get "connectable" != some "0"
      geometry := readGeometry geometry }

mutual

/-- The cells of an element and of everything inside it, in document order. `isWrapped` says that
the element is the cell inside a wrapper, which has been read with the wrapper. -/
def cellsOf (isWrapped : Bool) : Element → List Cell
  | .mk tag attributes text children =>
    let e := Element.mk tag attributes text children
    if wrapperTags.contains tag then
      (Cell.ofElement? e (e.child? cellTag)).toList ++ cellsOfChildren true children
    else if tag = cellTag && !isWrapped then
      (Cell.ofElement? e none).toList ++ cellsOfChildren false children
    else cellsOfChildren false children

/-- The cells of several elements. `skipsFirst` says that the first cell among them is inside a
wrapper. -/
def cellsOfChildren (skipsFirst : Bool) : List Element → List Cell
  | [] => []
  | e :: es =>
    let isInner := skipsFirst && e.tag = cellTag
    cellsOf isInner e ++ cellsOfChildren (skipsFirst && !isInner) es

end

/-- The cells of a graph model, in document order. -/
def cells (model : Element) : List Cell :=
  cellsOf false model

end DiagramBridge.Drawio
