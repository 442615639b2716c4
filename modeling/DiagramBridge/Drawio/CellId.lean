import DiagramBridge.Text.Fresh

/-!
# Ids of cells

Every cell of a page needs an id of its own, and two ids are taken from the start. Nodes keep their
ids where they can, then edges do; the others get new ones.
-/

namespace DiagramBridge.Drawio

open Text

/-- The ids of the cells that stand for the page itself and for its first layer. -/
def rootIds : List String := ["0", "1"]

/-- Whether an id can be used as it is. -/
def isFreeId (used : List String) (id : String) : Bool :=
  id != "" && !used.contains id

def nodeCellId (used : List String) (id : String) : String :=
  numberedName used (if isFreeId used id then id else "node_" ++ id)

/-- Gives every node a cell id that no other cell has, one after the other. -/
def assignCellIds (used : List String) : List String → List (String × String)
  | [] => []
  | id :: ids =>
    let cellId := nodeCellId used id
    (id, cellId) :: assignCellIds (cellId :: used) ids

/-- The cell ids of nodes with the given ids. -/
def cellIds (ids : List String) : List (String × String) :=
  assignCellIds rootIds ids

/-- The cell id of a node by the list. -/
def lookupCellId (ids : List (String × String)) (id : String) : String :=
  (ids.lookup id).getD id

def edgeCellId (used : List String) (index : Nat) (id : String) : String :=
  lengthenedName used (if isFreeId used id then id else "edge_" ++ decimalString index)

/-- Gives every edge a cell id that no node and no other edge has, one after the other. -/
def assignEdgeIds (used : List String) (index : Nat) : List String → List String
  | [] => []
  | id :: ids =>
    let cellId := edgeCellId used index id
    cellId :: assignEdgeIds (cellId :: used) (index + 1) ids

end DiagramBridge.Drawio
