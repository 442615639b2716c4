import DiagramBridge.Drawio.Cell
import DiagramBridge.Drawio.Writer
import DiagramBridge.Proofs.Diagram.Layout
import DiagramBridge.Proofs.Drawio.CellId
import DiagramBridge.Proofs.Drawio.Ordering
import DiagramBridge.Proofs.Number.Numeral
import DiagramBridge.Proofs.Text.Search
import Mathlib.Data.List.Basic

/-!
# The cells of a written graph

A written graph model has the two root cells, then the cells of every node, then one cell for every
valid edge. Read back, each says what was written in it: a node its value, its style and its box, an
edge its two ends as well.

The upper edges of the rows of a class are written as whole numbers that grow from row to row, and
they are read as numbers in the same order. So putting the rows in order changes nothing. A class
without a box has all rows at one height, and they keep their order as well.
-/

namespace DiagramBridge.Drawio

open Xml

/-! ## Cells by themselves -/

/-- The cell that is read where something visible was written. -/
def visibleCell (id label style parent : String) (box : Option Geometry) : Cell where
  id := id
  value := cellValueString label
  style := style
  isVertex := true
  isEdge := false
  parent := some parent
  source := none
  target := none
  isConnectable := true
  geometry := readGeometry (box.map geometryElement)

/-- The cell that is read where an edge was written. -/
def connectingCell (id source target : String) (e : Edge) : Cell where
  id := id
  value := cellValueString e.label
  style := edgeStyle e.lineStyle e.arrowEnd e.relation
  isVertex := false
  isEdge := true
  parent := some "1"
  source := some source
  target := some target
  isConnectable := true
  geometry := readGeometry (some (element geometryTag [("relative", "1"), ("as", "geometry")] []))

/-- The cell that is read where a root cell was written. -/
def rootCell (id : String) (parent : Option String) : Cell where
  id := id
  value := ""
  style := ""
  isVertex := false
  isEdge := false
  parent := parent
  source := none
  target := none
  isConnectable := true
  geometry := readGeometry none

/-- A class that is written with a cell for every member. -/
def HasRows (n : Node) : Prop :=
  n.kind = .classLike ∧ n.members ≠ []

instance (n : Node) : Decidable (HasRows n) :=
  inferInstanceAs (Decidable (_ ∧ _))

/-- The box that is written for a node: that of a class is as high as its rows need. -/
def writtenBox (n : Node) : Option Geometry :=
  if HasRows n then
    n.geometry.map fun box => { box with height := Coord.whole (classHeight n.members.length) }
  else n.geometry

/-- The cell that is read where a node was written, without those of its members. -/
def titleReading (cellId : String) (n : Node) : Cell :=
  visibleCell cellId n.label (vertexStyle n.shape) "1" (writtenBox n)

/-- The cells that are read where the members of a class were written. -/
def rowReadings (cellId : String) (n : Node) : List Cell :=
  if HasRows n then
    n.members.zipIdx.map fun (member, i) =>
      visibleCell (memberCellId cellId i) member memberStyle cellId
        (n.geometry.map fun box => memberBox box.width i)
  else []

/-- Only a class with members has rows, and each is the cell of a member. -/
theorem exists_of_mem_rowReadings {cellId : String} {n : Node} {c : Cell}
    (h : c ∈ rowReadings cellId n) :
    HasRows n ∧ ∃ member i, c = visibleCell (memberCellId cellId i) member memberStyle cellId
      (n.geometry.map fun box => memberBox box.width i) := by
  rw [rowReadings] at h
  split at h
  · next hrows =>
    obtain ⟨⟨member, i⟩, -, rfl⟩ := List.mem_map.1 h
    exact ⟨hrows, member, i, rfl⟩
  · exact absurd h List.not_mem_nil

theorem nonEmpty?_of_ne {s : String} (h : s ≠ "") : nonEmpty? (some s) = some s := by
  rw [nonEmpty?.eq_def]
  split
  · next heq => exact absurd (Option.some.inj heq) h
  · rfl

theorem getD_nonEmpty? (s : String) : ((nonEmpty? (some s)).or none).getD "" = s := by
  by_cases h : s = ""
  · rw [h]
    rfl
  · rw [nonEmpty?_of_ne h]
    rfl

theorem cellsOfChildren_false (es : List Element) :
    cellsOfChildren false es = es.flatMap (cellsOf false) := by
  induction es with
  | nil => rfl
  | cons e es ih =>
      rw [cellsOfChildren, Bool.false_and, List.flatMap_cons, ← ih]
      rfl

/-- An element that is neither a cell nor a wrapper only holds cells. -/
theorem cellsOf_element {tag : String} (hwrapper : tag ∉ wrapperTags) (hcell : tag ≠ cellTag)
    (attributes : List (String × String)) (children : List Element) :
    cellsOf false (element tag attributes children) = cellsOfChildren false children := by
  rw [element, cellsOf, if_neg (by simpa using hwrapper), if_neg (by simpa using hcell)]

theorem ofElement?_vertexCell {id : String} (hid : id ≠ "") (label style parent : String)
    (box : Option Geometry) :
    Cell.ofElement? (vertexCell id label style parent box) none =
      some (visibleCell id label style parent box) := by
  have hidAttribute : nonEmpty? ((vertexCell id label style parent box).attribute? "id") =
      some id := nonEmpty?_of_ne hid
  have hvalue : ((nonEmpty? ((vertexCell id label style parent box).attribute? "value")).or
      ((vertexCell id label style parent box).attribute? "label")).getD "" =
        cellValueString label := getD_nonEmpty? _
  have hbox : ((vertexCell id label style parent box).child? geometryTag).or
      ((none : Option Element).bind (·.child? geometryTag)) = box.map geometryElement := by
    cases box <;> rfl
  rw [Cell.ofElement?, hidAttribute]
  simp only [Option.bind_eq_bind, Option.bind_some, hvalue, hbox]
  rfl

theorem cellsOf_vertexCell {id : String} (hid : id ≠ "") (label style parent : String)
    (box : Option Geometry) :
    cellsOf false (vertexCell id label style parent box) =
      [visibleCell id label style parent box] := by
  have hcell := ofElement?_vertexCell hid label style parent box
  have hchildren : cellsOfChildren false (box.map geometryElement).toList = [] := by
    cases box <;> rfl
  rw [vertexCell, element] at hcell ⊢
  rw [cellsOf, hcell, hchildren]
  rfl

theorem cellsOf_edgeCell {id : String} (hid : id ≠ "") (source target : String) (e : Edge) :
    cellsOf false (edgeCell id source target e) = [connectingCell id source target e] := by
  have hidAttribute : nonEmpty? ((edgeCell id source target e).attribute? "id") = some id :=
    nonEmpty?_of_ne hid
  have hvalue : ((nonEmpty? ((edgeCell id source target e).attribute? "value")).or
      ((edgeCell id source target e).attribute? "label")).getD "" = cellValueString e.label :=
    getD_nonEmpty? _
  have hcell : Cell.ofElement? (edgeCell id source target e) none =
      some (connectingCell id source target e) := by
    rw [Cell.ofElement?, hidAttribute]
    simp only [Option.bind_eq_bind, Option.bind_some, hvalue]
    rfl
  rw [edgeCell, element] at hcell ⊢
  rw [cellsOf, hcell]
  rfl

/-! ## All cells -/

theorem memberCellId_ne_empty {cellId : String} (h : cellId ≠ "") (i : Nat) :
    memberCellId cellId i ≠ "" :=
  Text.append_ne_empty (Text.append_ne_empty h _) _

theorem flatMap_cellsOf_nodeCells {cellId : String} (h : cellId ≠ "") (n : Node) :
    (nodeCells cellId n).flatMap (cellsOf false) =
      titleReading cellId n :: rowReadings cellId n := by
  rw [nodeCells, titleReading, writtenBox, rowReadings]
  by_cases hrows : HasRows n
  · have hkind : n.kind = .classLike ∧ n.members ≠ [] := hrows
    rw [if_pos hrows, if_pos hrows, if_pos hkind, classCells, List.flatMap_cons,
      cellsOf_vertexCell h, List.flatMap_map, List.map_eq_flatMap, List.singleton_append]
    simp only [memberCell, cellsOf_vertexCell (memberCellId_ne_empty h _)]
  · have hkind : ¬ (n.kind = .classLike ∧ n.members ≠ []) := hrows
    rw [if_neg hrows, if_neg hrows, if_neg hkind, List.flatMap_singleton, cellsOf_vertexCell h]

/-- The id of the cell of a node of a graph. -/
def cellIdOf (g : Graph) (id : String) : String :=
  lookupCellId (cellIds g.nodeIds) id

/-- The ids of the cells of the valid edges of a graph. -/
def edgeCellIds (g : Graph) : List String :=
  assignEdgeIds ((cellIds g.nodeIds).map (·.2) ++ rootIds) 0 (g.validEdges.map (·.id))

/-- The cells that are read where the nodes of a graph were written. -/
def nodeReadings (g : Graph) : List Cell :=
  g.nodes.flatMap fun n => titleReading (cellIdOf g n.id) n :: rowReadings (cellIdOf g n.id) n

/-- The cells that are read where the edges of a graph were written. -/
def edgeReadings (g : Graph) : List Cell :=
  (g.validEdges.zip (edgeCellIds g)).map fun (e, cellId) =>
    connectingCell cellId (cellIdOf g e.source) (cellIdOf g e.target) e

/-- The cells that are read where the root cells were written. -/
def rootReadings : List Cell :=
  [rootCell "0" none, rootCell "1" (some "0")]

/-- The cells that are read where a graph was written. -/
def readings (g : Graph) : List Cell :=
  rootReadings ++ nodeReadings g ++ edgeReadings g

theorem cells_modelOfPlaced (g : Graph) : cells (modelOfPlaced g) = readings g := by
  have hroots : rootCells.flatMap (cellsOf false) = rootReadings := rfl
  have hnodes : (g.nodes.flatMap fun n => nodeCells (lookupCellId (cellIds g.nodeIds) n.id) n).flatMap
      (cellsOf false) = nodeReadings g := by
    rw [List.flatMap_assoc]
    refine List.flatMap_congr fun n hn => flatMap_cellsOf_nodeCells ?_ n
    exact (isMadeOf_lookupCellId g.nodup (List.mem_map_of_mem hn)).ne_empty
  have hedges : (edgeCells (cellIds g.nodeIds) g.validEdges).flatMap (cellsOf false) =
      edgeReadings g := by
    rw [edgeCells]
    refine (List.flatMap_map ..).trans (Eq.trans ?_ List.map_eq_flatMap.symm)
    refine List.flatMap_congr fun p hp => cellsOf_edgeCell ?_ _ _ _
    obtain ⟨id, -, hmade⟩ := exists_isMadeOf_of_mem_assignEdgeIds (List.of_mem_zip hp).2
    exact hmade.ne_empty
  calc cells (modelOfPlaced g)
      = cellsOfChildren false (rootCells ++
          (g.nodes.flatMap fun n => nodeCells (lookupCellId (cellIds g.nodeIds) n.id) n) ++
            edgeCells (cellIds g.nodeIds) g.validEdges) := by
        rw [cells, modelOfPlaced, cellsOf_element (by decide) (by decide), cellsOfChildren_false,
          List.flatMap_singleton, cellsOf_element (by decide) (by decide)]
    _ = readings g := by
        rw [cellsOfChildren_false, List.flatMap_append, List.flatMap_append, hroots, hnodes, hedges,
          readings]

/-! ## Rows -/

theorem text_whole (n : Int) : (Coord.whole n).text = decimalInt n := by
  rw [Coord.text, Coord.toReal, Binary64.toInt?_ofInt]

theorem text_real_ofInt (n : Int) : (Coord.real (.ofInt n)).text = decimalInt n := by
  rw [Coord.text, Coord.toReal, Binary64.toInt?_ofInt]

theorem text_natCast (n : Nat) : (Coord.whole n).text = decimal n := by
  rw [text_whole, decimalInt, if_neg (by omega), Int.natAbs_natCast]

/-- A whole length that is not zero is read as the number nearest to it. -/
theorem lengthAttribute_whole {e : Element} {name : String} {n : Nat} (hn : n ≠ 0)
    (h : e.attribute? name = some (String.ofList (Coord.whole n).text)) (default : Binary64) :
    lengthAttribute (some e) name default = .roundQuotient false n 1 := by
  rw [lengthAttribute, Option.bind_some, h, Option.bind_some, String.toList_ofList, text_natCast,
    Numeral.readReal?_decimal hn]
  simp only [Binary64.isZero_roundQuotient_one hn, Bool.false_eq_true, if_false]

/-- The upper edge of a row as it is read. -/
def rowEdge (box : Option Geometry) (i : Nat) : Binary64 :=
  (readGeometry ((box.map fun box => memberBox box.width i).map geometryElement)).y.toReal

theorem rowEdge_some (box : Geometry) (i : Nat) :
    rowEdge (some box) i = .roundQuotient false (titleHeight + rowHeight * i) 1 := by
  have hheight : titleHeight + rowHeight * i ≠ 0 := by
    rw [titleHeight]
    omega
  have hattribute : (geometryElement (memberBox box.width i)).attribute? "y" =
      some (String.ofList (Coord.whole (titleHeight + rowHeight * i : Nat)).text) := by
    simp [Element.attribute?, geometryElement, element, Element.attributes, List.lookup_cons,
      memberBox]
  simp only [rowEdge, Option.map_some, readGeometry, Coord.toReal,
    lengthAttribute_whole hheight hattribute]

theorem isNaN_rowEdge (box : Option Geometry) (i : Nat) : (rowEdge box i).isNaN = false := by
  cases box with
  | none => rfl
  | some box =>
      rw [rowEdge_some]
      exact Binary64.isNaN_roundQuotient_one _

theorem rowEdge_mono (box : Option Geometry) {i j : Nat} (h : i ≤ j) :
    (rowEdge box i).le (rowEdge box j) = true := by
  cases box with
  | none => rfl
  | some box =>
      rw [rowEdge_some, rowEdge_some]
      refine Binary64.le_roundQuotient_one ?_ (Nat.add_le_add_left (Nat.mul_le_mul_left _ h) _)
      rw [titleHeight]
      omega

theorem y_rowReadings {cellId : String} {n : Node} {c : Cell} (h : c ∈ rowReadings cellId n) :
    ∃ i, c.geometry.y.toReal = rowEdge n.geometry i := by
  obtain ⟨-, member, i, rfl⟩ := exists_of_mem_rowReadings h
  exact ⟨i, rfl⟩

/-- The rows of a class are in order as they are written. -/
theorem sortByKey_rowReadings (cellId : String) (n : Node) :
    sortByKey (·.geometry.y.toReal) (rowReadings cellId n) = rowReadings cellId n := by
  refine sortByKey_of_pairwise (fun c hc => ?_) ?_
  · obtain ⟨i, hi⟩ := y_rowReadings hc
    rw [hi]
    exact isNaN_rowEdge _ i
  · rw [rowReadings]
    split
    · rw [List.pairwise_map]
      have hplaces : n.members.zipIdx.Pairwise fun a b => a.2 ≤ b.2 := by
        refine List.pairwise_map.1 ?_
        rw [List.zipIdx_map_snd]
        exact List.pairwise_le_range' ..
      exact hplaces.imp fun {a b} hab => rowEdge_mono n.geometry hab
    · exact List.Pairwise.nil

end DiagramBridge.Drawio
