import DiagramBridge.Proofs.Conversion.Pipeline
import DiagramBridge.Proofs.Diagram.Placement
import DiagramBridge.Proofs.Drawio.DistinctIds
import DiagramBridge.Proofs.Drawio.WrittenCells
import DiagramBridge.Proofs.Mermaid.WellFormed

/-!
# Boxes that overlap

The layout takes all boxes to be of one size, and in a row and between rows there is room for boxes of
this size. A class is drawn as high as its members need, whatever stands below it. So boxes of a
drawing have a point in common if and only if a class reaches down to a box below it, which a class
of at most three members never does.
-/

namespace DiagramBridge

open Xml

namespace Drawio

open Layout

/-! ## Cells that stand on the page -/

/-- An attribute of the box of a cell. -/
def boxAttribute? (e : Element) (name : String) : Option String :=
  (e.child? geometryTag).bind (·.attribute? name)

/-- A cell is drawn as a rectangle, by what its box says. -/
structure HasRect (e : Element) (r : Rect) : Prop where
  x : boxAttribute? e "x" = some (String.ofList (decimalInt r.x))
  y : boxAttribute? e "y" = some (String.ofList (decimalInt r.y))
  width : boxAttribute? e "width" = some (decimalString r.width)
  height : boxAttribute? e "height" = some (decimalString r.height)

theorem HasRect.unique {e : Element} {r s : Rect} (hr : HasRect e r) (hs : HasRect e s) : r = s := by
  obtain ⟨x, y, width, height⟩ := r
  obtain ⟨x', y', width', height'⟩ := s
  have hx := decimalInt_injective (String.ofList_injective (Option.some.inj (hr.x.symm.trans hs.x)))
  have hy := decimalInt_injective (String.ofList_injective (Option.some.inj (hr.y.symm.trans hs.y)))
  have hwidth := decimalString_injective (Option.some.inj (hr.width.symm.trans hs.width))
  have hheight := decimalString_injective (Option.some.inj (hr.height.symm.trans hs.height))
  dsimp only at hx hy hwidth hheight
  rw [hx, hy, hwidth, hheight]

/-- Cells that are drawn without a common point. -/
def AreApart (e f : Element) : Prop :=
  ∃ r s, HasRect e r ∧ HasRect f s ∧ Disjoint r.points s.points

theorem AreApart.symm {e f : Element} (h : AreApart e f) : AreApart f e := by
  obtain ⟨r, s, hr, hs, hdisjoint⟩ := h
  exact ⟨s, r, hs, hr, hdisjoint.symm⟩

theorem areApart_iff {e f : Element} {r s : Rect} (hr : HasRect e r) (hs : HasRect f s) :
    AreApart e f ↔ Disjoint r.points s.points := by
  refine ⟨?_, fun h => ⟨r, s, hr, hs, h⟩⟩
  rintro ⟨r', s', hr', hs', h⟩
  rwa [hr.unique hr', hs.unique hs']

/-- The cell of a vertex whose parent is the layer of the page. -/
def isTopCell (e : Element) : Bool :=
  e.tag == cellTag && e.attribute? "vertex" == some "1" && e.attribute? "parent" == some "1"

/-- The vertices on the layer of the page, in document order. -/
def topCells (e : Element) : List Element :=
  e.descendants.filter isTopCell

/-- The cell of a node, without those of its members. -/
def titleCell (cellId : String) (n : Node) : Element :=
  vertexCell cellId n.label (vertexStyle n.shape) "1" (writtenBox n)

theorem topCells_vertexCell (id label style parent : String) (box : Option Geometry) :
    (Element.forestElements [vertexCell id label style parent box]).filter isTopCell =
      if parent = "1" then [vertexCell id label style parent box] else [] := by
  have htop : isTopCell (vertexCell id label style parent box) = (parent == "1") := rfl
  have hinside : Element.forestElements [vertexCell id label style parent box] =
      vertexCell id label style parent box :: (box.map geometryElement).toList := by
    cases box <;> rfl
  have hbox : (box.map geometryElement).toList.filter isTopCell = [] := by
    cases box <;> rfl
  rw [hinside, List.filter_cons, htop, hbox]
  simp only [beq_iff_eq]

/-- The members of a class stand on the class and not on the page. -/
theorem topCells_nodeCells {cellId : String} (h : cellId ≠ "1") (n : Node) :
    (Element.forestElements (nodeCells cellId n)).filter isTopCell = [titleCell cellId n] := by
  rw [nodeCells, titleCell, writtenBox]
  by_cases hrows : HasRows n
  · have hkind : n.kind = .classLike ∧ n.members ≠ [] := hrows
    have hmembers : (Element.forestElements (n.members.zipIdx.map fun p =>
        memberCell cellId n.geometry p.1 p.2)).filter isTopCell = [] := by
      rw [List.map_eq_flatMap, Element.forestElements_flatMap, List.filter_flatMap,
        List.flatMap_eq_nil_iff]
      intro p _
      rw [memberCell, topCells_vertexCell, if_neg h]
    rw [if_pos hrows, if_pos hkind, classCells, ← List.singleton_append,
      Element.forestElements_append, List.filter_append, topCells_vertexCell, if_pos rfl]
    exact congrArg _ hmembers
  · have hkind : ¬ (n.kind = .classLike ∧ n.members ≠ []) := hrows
    rw [if_neg hrows, if_neg hkind, topCells_vertexCell, if_pos rfl]

theorem topCells_edgeCells (ids : List (String × String)) (es : List Edge) :
    (Element.forestElements (edgeCells ids es)).filter isTopCell = [] := by
  rw [edgeCells, List.map_eq_flatMap, Element.forestElements_flatMap, List.filter_flatMap,
    List.flatMap_eq_nil_iff]
  intro p _
  rfl

/-- On the page there is one cell for every node. -/
theorem topCells_modelOfPlaced (g : Graph) :
    topCells (modelOfPlaced g) = g.nodes.map fun n => titleCell (cellIdOf g n.id) n := by
  have hroot (es : List Element) : isTopCell (element rootTag [] es) = false := by
    have htag : ((element rootTag [] es).tag == cellTag) = false :=
      (by decide : (rootTag == cellTag) = false)
    rw [isTopCell, htag]
    rfl
  have hroots : (Element.forestElements rootCells).filter isTopCell = [] := rfl
  have hnodes : (Element.forestElements (g.nodes.flatMap fun n =>
      nodeCells (lookupCellId (cellIds g.nodeIds) n.id) n)).filter isTopCell =
        g.nodes.map fun n => titleCell (cellIdOf g n.id) n := by
    rw [Element.forestElements_flatMap, List.filter_flatMap, List.map_eq_flatMap]
    refine List.flatMap_congr fun n hn => topCells_nodeCells ?_ n
    intro heq
    exact cellIdOf_not_mem_rootIds hn (by rw [cellIdOf, heq]; decide)
  rw [modelOfPlaced, topCells, filter_descendants_page hroot, Element.forestElements_append,
    Element.forestElements_append, List.filter_append, List.filter_append, hroots, hnodes,
    topCells_edgeCells, List.append_nil, List.nil_append]

/-! ## Where nodes are drawn -/

/-- How high a node is drawn. -/
def drawnHeight (n : Node) : Nat :=
  if HasRows n then classHeight n.members.length else boxHeight

/-- The rectangle of the `i`-th of so many nodes in the row at a depth. -/
def rectAt (g : Graph) (n : Node) (depth length i : Nat) : Rect where
  x := (placeAt g depth length i).x
  y := (placeAt g depth length i).y
  width := boxWidth
  height := drawnHeight n

/-- The cell of a node in the drawing of a graph. -/
def drawnCell (g : Graph) (n : Node) : Element :=
  titleCell (cellIdOf g n.id) (settleNode (places g) n)

theorem topCells_model (g : Graph) : topCells (model g) = g.nodes.map (drawnCell g) := by
  rw [model, topCells_modelOfPlaced, Graph.nodes_layout, List.map_map]
  refine List.map_congr_left fun n _ => ?_
  rw [Function.comp_apply, id_settleNode, cellIdOf, Graph.nodeIds_layout]
  rfl

theorem hasRect_vertexCell {box : Geometry} {r : Rect} (hx : box.x.text = decimalInt r.x)
    (hy : box.y.text = decimalInt r.y) (hwidth : box.width.text = decimal r.width)
    (hheight : box.height.text = decimal r.height) (id label style parent : String) :
    HasRect (vertexCell id label style parent (some box)) r :=
  ⟨congrArg (some <| String.ofList ·) hx, congrArg (some <| String.ofList ·) hy,
    congrArg (some <| String.ofList ·) hwidth, congrArg (some <| String.ofList ·) hheight⟩

theorem hasRect_titleCell (cellId : String) {n : Node} {place : Place}
    (h : n.geometry = some (box place)) :
    HasRect (titleCell cellId n) ⟨place.x, place.y, boxWidth, drawnHeight n⟩ := by
  have hbox : writtenBox n = some { box place with height := .whole (drawnHeight n : Nat) } := by
    rw [writtenBox, drawnHeight, h]
    by_cases hrows : HasRows n
    · rw [if_pos hrows, if_pos hrows]
      rfl
    · rw [if_neg hrows, if_neg hrows]
      rfl
  rw [titleCell, hbox]
  exact hasRect_vertexCell (text_real_ofInt _) (text_whole _) (text_natCast _) (text_natCast _) ..

theorem hasRect_drawnCell {g : Graph} {n : Node} (hn : n.isPlaced = false) {depth i : Nat}
    {ids : List String} (h : g.StandsAt n.id depth ids i) :
    HasRect (drawnCell g n) (rectAt g n depth ids.length i) := by
  rw [drawnCell, settleNode_of_standsAt hn h]
  exact hasRect_titleCell _ rfl

/-! ## Room -/

/-- A node stands so many rows above another one, and the columns of the two meet. -/
def StandsOver (g : Graph) (upper lower : Node) (rows : Nat) : Prop :=
  ∃ depth ids i ids' j, g.StandsAt upper.id depth ids i ∧ g.StandsAt lower.id (depth + rows) ids' j ∧
    |column ids.length i - column ids'.length j| ≤ boxWidth

/-- No class is as high as the way down to a node that it stands over. -/
def HasRoom (g : Graph) : Prop :=
  ∀ upper ∈ g.nodes, HasRows upper → ∀ lower ∈ g.nodes, ∀ rows, 0 < rows →
    StandsOver g upper lower rows → classHeight upper.members.length < rowPitch * rows

/-- A class of at most three members fits between two rows. -/
theorem HasRoom.of_length_le {g : Graph} (h : ∀ n ∈ g.nodes, n.members.length ≤ 3) : HasRoom g := by
  intro upper hupper _ _ _ rows hrows _
  have hlength := h upper hupper
  rw [classHeight, leastClassHeight, titleHeight, rowHeight, rowPitch]
  omega

/-- Boxes of one row are apart. -/
theorem disjoint_rectAt_of_ne (g : Graph) (n m : Node) (depth length : Nat) {i j : Nat} (h : i ≠ j) :
    Disjoint (rectAt g n depth length i).points (rectAt g m depth length j).points := by
  rw [Rect.disjoint_points_iff]
  left
  simp only [rectAt, placeAt, column, columnPitch, boxWidth]
  omega

/-- Boxes of two rows are apart if their columns are or if the upper one ends above the lower one. -/
theorem disjoint_rectAt_iff (g : Graph) (n m : Node) (depth length i length' j : Nat) {rows : Nat}
    (h : 0 < rows) :
    Disjoint (rectAt g n depth length i).points (rectAt g m (depth + rows) length' j).points ↔
      (|column length i - column length' j| ≤ boxWidth → drawnHeight n < rowPitch * rows) := by
  have hx (k : Node) (d l c : Nat) : (rectAt g k d l c).x = column l c + shift (centredPlaces g) := rfl
  have hwidth (k : Node) (d l c : Nat) : (rectAt g k d l c).width = boxWidth := rfl
  have hheight : (rectAt g n depth length i).height = drawnHeight n := rfl
  have hy : (rectAt g m (depth + rows) length' j).y =
      (rectAt g n depth length i).y + (rowPitch * rows : Nat) := by
    simp only [rectAt, placeAt, row]
    push_cast
    ring
  have hdown : 0 < rowPitch * rows := Nat.mul_pos (by decide) h
  rw [Rect.disjoint_points_iff, abs_le, hx, hx, hy, hwidth, hwidth, hheight]
  omega

/-- A node that is not drawn as a class with rows fits between any two rows. -/
theorem drawnHeight_lt_iff {n : Node} {rows : Nat} (h : 0 < rows) :
    drawnHeight n < rowPitch * rows ↔
      (HasRows n → classHeight n.members.length < rowPitch * rows) := by
  rw [drawnHeight]
  by_cases hrows : HasRows n
  · rw [if_pos hrows]
    exact ⟨fun hlt _ => hlt, fun hlt => hlt hrows⟩
  · rw [if_neg hrows]
    refine ⟨fun _ hr => absurd hr hrows, fun _ => ?_⟩
    rw [boxHeight, rowPitch]
    omega

section

variable {g : Graph} (hplain : ∀ n ∈ g.nodes, n.isPlaced = false)
include hplain

theorem areApart_drawnCell_iff {n m : Node} (hn : n ∈ g.nodes) (hm : m ∈ g.nodes)
    {depth depth' i j : Nat} {ids ids' : List String} (hi : g.StandsAt n.id depth ids i)
    (hj : g.StandsAt m.id depth' ids' j) :
    AreApart (drawnCell g n) (drawnCell g m) ↔
      Disjoint (rectAt g n depth ids.length i).points (rectAt g m depth' ids'.length j).points :=
  areApart_iff (hasRect_drawnCell (hplain n hn) hi) (hasRect_drawnCell (hplain m hm) hj)

/-- Where there is room, a node is apart from those in lower rows. -/
theorem areApart_of_hasRoom (hroom : HasRoom g) {n m : Node} (hn : n ∈ g.nodes) (hm : m ∈ g.nodes)
    {depth rows i j : Nat} {ids ids' : List String} (hrows : 0 < rows)
    (hi : g.StandsAt n.id depth ids i) (hj : g.StandsAt m.id (depth + rows) ids' j) :
    AreApart (drawnCell g n) (drawnCell g m) := by
  rw [areApart_drawnCell_iff hplain hn hm hi hj, disjoint_rectAt_iff _ _ _ _ _ _ _ _ hrows,
    drawnHeight_lt_iff hrows]
  exact fun hmeet hclass =>
    hroom n hn hclass m hm rows hrows ⟨depth, ids, i, ids', j, hi, hj, hmeet⟩

/-- Boxes in a drawing are apart from each other exactly if every class has room. -/
theorem pairwise_areApart_iff : (topCells (model g)).Pairwise AreApart ↔ HasRoom g := by
  have : Std.Symm fun n m => AreApart (drawnCell g n) (drawnCell g m) := ⟨fun _ _ => AreApart.symm⟩
  rw [topCells_model, List.pairwise_map]
  constructor
  · intro hapart upper hupper hclass lower hlower rows hrows ⟨depth, ids, i, ids', j, hi, hj, hmeet⟩
    have hne : upper ≠ lower := by
      rintro rfl
      have hdepth := depth_eq_of_standsAt hi hj
      omega
    have hdisjoint := (areApart_drawnCell_iff hplain hupper hlower hi hj).1
      (hapart.forall hupper hlower hne)
    rw [disjoint_rectAt_iff _ _ _ _ _ _ _ _ hrows, drawnHeight_lt_iff hrows] at hdisjoint
    exact hdisjoint hmeet hclass
  · intro hroom
    refine List.Nodup.pairwise_of_forall_ne (List.Nodup.of_map _ g.nodup) fun n hn m hm hne => ?_
    obtain ⟨depth, ids, i, hi⟩ := Graph.exists_standsAt (List.mem_map_of_mem (f := Node.id) hn)
    obtain ⟨depth', ids', j, hj⟩ := Graph.exists_standsAt (List.mem_map_of_mem (f := Node.id) hm)
    rcases lt_trichotomy depth depth' with hlt | rfl | hlt
    · obtain ⟨rows, rfl⟩ := Nat.exists_eq_add_of_lt hlt
      exact areApart_of_hasRoom hplain hroom hn hm (Nat.succ_pos rows) hi hj
    · obtain rfl : ids = ids' := Option.some.inj (hi.1.symm.trans hj.1)
      rw [areApart_drawnCell_iff hplain hn hm hi hj]
      refine disjoint_rectAt_of_ne _ _ _ _ _ fun hij => hne ?_
      exact Graph.eq_of_id_eq hn hm (Option.some.inj (hi.2.symm.trans (hij ▸ hj.2)))
    · obtain ⟨rows, rfl⟩ := Nat.exists_eq_add_of_lt hlt
      exact (areApart_of_hasRoom hplain hroom hm hn (Nat.succ_pos rows) hj hi).symm

/-- The boxes of nodes lie within the page. -/
theorem exists_hasRect_topCells {e : Element} (he : e ∈ topCells (model g)) :
    ∃ r, HasRect e r ∧ 0 < r.x ∧ 0 < r.y ∧ 0 < r.width ∧ 0 < r.height := by
  rw [topCells_model] at he
  obtain ⟨n, hn, rfl⟩ := List.mem_map.1 he
  obtain ⟨depth, ids, i, hi⟩ := Graph.exists_standsAt (List.mem_map_of_mem (f := Node.id) hn)
  refine ⟨_, hasRect_drawnCell (hplain n hn) hi, (placeAt_pos hi).1, (placeAt_pos hi).2,
    (by decide : 0 < boxWidth), ?_⟩
  have hleast : 0 < leastClassHeight := by decide
  have hheight : 0 < drawnHeight n := by
    rw [drawnHeight]
    split
    · exact lt_of_lt_of_le hleast (le_max_left ..)
    · decide
  exact hheight

end

end Drawio

/-! ## Texts that are converted -/

open Drawio

section

variable {text : String} {d : Mermaid.Diagram} (h : Mermaid.read text = .ok d)
include h

theorem isPlaced_of_read {n : Node} (hn : n ∈ d.graph.nodes) : n.isPlaced = false := by
  rw [Node.isPlaced, ((Mermaid.isReadAs_of_read h).consists.nodes n hn).geometry]

theorem hasRoom_of_read (htype : d.type ≠ .classDiagram) : HasRoom d.graph := by
  intro n hn hclass
  have hkind : n.kind = .classLike := hclass.1
  rw [((Mermaid.isReadAs_of_read h).consists.nodes n hn).kind,
    DiagramType.nodeKind_eq_classLike_iff] at hkind
  exact absurd hkind htype

/-- **Boxes that overlap.** Every Mermaid text that is read is converted. On the page of the drawing
there is a cell for every node, and its box has an area and does not lie beyond the edge. Any two of
the boxes are disjoint if and only if no class reaches down to a node that it stands over. In a
drawing whose classes have three members at most, and in one without classes, this is so. -/
theorem pairwise_areApart_of_read (compress : Bool) :
    (toDrawing text compress).result = .ok (write d.graph compress defaultPageName) ∧
      (topCells (model d.graph)).length = d.graph.nodes.length ∧
      (∀ e ∈ topCells (model d.graph),
        ∃ r, HasRect e r ∧ 0 < r.x ∧ 0 < r.y ∧ 0 < r.width ∧ 0 < r.height) ∧
      ((topCells (model d.graph)).Pairwise AreApart ↔ HasRoom d.graph) ∧
      ((∀ n ∈ d.graph.nodes, n.members.length ≤ 3) → HasRoom d.graph) ∧
      (d.type ≠ .classDiagram → HasRoom d.graph) := by
  have hplain : ∀ n ∈ d.graph.nodes, n.isPlaced = false := fun n hn => isPlaced_of_read h hn
  refine ⟨result_toDrawing h compress, ?_, fun e he => exists_hasRect_topCells hplain he,
    pairwise_areApart_iff hplain, HasRoom.of_length_le, hasRoom_of_read h⟩
  rw [topCells_model, List.length_map]

end

/-- A class of three members above another class. -/
def roomyText : String :=
  "classDiagram\nclass A \x7b\na\nb\nc\n\x7d\nA --> B"

theorem pairwise_areApart_of_read_roomyText :
    ∃ d, Mermaid.read roomyText = .ok d ∧ d.graph.nodeIds = ["A", "B"] ∧
      (topCells (model d.graph)).length = 2 ∧ (topCells (model d.graph)).Pairwise AreApart := by
  have hstatements : Mermaid.statements roomyText.toList = ["classDiagram".toList,
      "class A \x7b".toList, "a".toList, "b".toList, "c".toList, "\x7d".toList,
      "A --> B".toList] := by
    decide +kernel
  have hheader : Mermaid.headerType? "classDiagram".toList = some .classDiagram := by decide +kernel
  have hread : Mermaid.read roomyText = .ok ⟨.classDiagram, _⟩ :=
    Mermaid.read_of_statements hstatements hheader (by decide +kernel)
  obtain ⟨-, hlength, -, hiff, hroom, -⟩ := pairwise_areApart_of_read hread false
  exact ⟨_, hread, by decide +kernel, hlength.trans (by decide +kernel),
    hiff.2 (hroom (by decide +kernel))⟩

/-- A class of four members above another class. -/
def tallText : String :=
  "classDiagram\nclass A \x7b\na\nb\nc\nd\n\x7d\nA --> B"

def tallClass : Node where
  id := "A"
  label := "A"
  shape := .classBox
  kind := .classLike
  members := ["a", "b", "c", "d"]

def lowerClass : Node where
  id := "B"
  label := "B"
  shape := .classBox
  kind := .classLike

/-- The box of the upper class covers the upper edge of the lower one. -/
theorem not_areApart_tallText : ∃ d, Mermaid.read tallText = .ok d ∧
    (toDrawing tallText false).result = .ok (write d.graph false defaultPageName) ∧
      ¬ (topCells (model d.graph)).Pairwise AreApart := by
  have hstatements : Mermaid.statements tallText.toList = ["classDiagram".toList,
      "class A \x7b".toList, "a".toList, "b".toList, "c".toList, "d".toList, "\x7d".toList,
      "A --> B".toList] := by
    decide +kernel
  have hheader : Mermaid.headerType? "classDiagram".toList = some .classDiagram := by decide +kernel
  have hread : Mermaid.read tallText = .ok ⟨.classDiagram, _⟩ :=
    Mermaid.read_of_statements hstatements hheader (by decide +kernel)
  refine ⟨_, hread, result_toDrawing hread false, ?_⟩
  rw [pairwise_areApart_iff fun n hn => isPlaced_of_read hread hn]
  generalize hgraph : Mermaid.readBody _ _ = g
  have hnodes : g.nodes = [tallClass, lowerClass] := by
    rw [← hgraph]
    decide
  have hlayers : g.layers = [["A"], ["B"]] := by
    rw [← hgraph]
    decide
  have hover : StandsOver g tallClass lowerClass 1 :=
    ⟨0, ["A"], 0, ["B"], 0, ⟨by rw [hlayers]; rfl, rfl⟩, ⟨by rw [hlayers]; rfl, rfl⟩, by decide⟩
  intro hroom
  have hlt := hroom tallClass (by simp [hnodes]) (by decide) lowerClass (by simp [hnodes]) 1
    (by decide) hover
  exact absurd hlt (by decide)

end DiagramBridge
