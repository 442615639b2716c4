import DiagramBridge.Proofs.Drawio.Extraction
import DiagramBridge.Proofs.Drawio.WrittenCells
import DiagramBridge.Proofs.Text.Search
import DiagramBridge.Proofs.Xml.Tree
import Mathlib.Data.List.Nodup
import Mathlib.Data.List.Perm.Basic

/-!
# The ids in a written graph model

Every cell of a written graph model has an id. The ids of nodes and edges are distinct because each
was new when it was given. The cells of members are named after their class and their place in it, so
they are distinct among themselves. That no node and no edge happens to have such a name has to be
asked for: an id of a member is made without looking whether it is taken, and the ids of all cells
are distinct if none is, and only then.
-/

namespace DiagramBridge.Drawio

open Text Xml

/-! ## Ids of members -/

theorem toList_memberCellId (cellId : String) (i : Nat) :
    (memberCellId cellId i).toList = cellId.toList ++ "-member-".toList ++ decimal i := by
  rw [memberCellId, String.toList_append, String.toList_append, toList_decimalString]

/-- A member id tells the class and the place: the digits at its end end at a dash. -/
theorem memberCellId_injective {c c' : String} {i i' : Nat}
    (h : memberCellId c i = memberCellId c' i') : c = c' ∧ i = i' := by
  have hspan : ∀ (c : String) (i : Nat), (memberCellId c i).toList.reverse.span isAsciiDigit =
      ((decimal i).reverse, "-rebmem-".toList ++ c.toList.reverse) := by
    intro c i
    have hrev : (memberCellId c i).toList.reverse =
        (decimal i).reverse ++ ("-rebmem-".toList ++ c.toList.reverse) := by
      rw [toList_memberCellId, List.reverse_append, List.reverse_append]
      rfl
    rw [hrev]
    refine span_append_of_stops (fun d hd => ?_) ?_
    · exact isAsciiDigit_of_mem_decimal (List.mem_reverse.1 hd)
    · exact stops_cons_iff.2 (by decide : isAsciiDigit '-' = false)
  have heq := hspan c i
  rw [h, hspan c' i', Prod.mk.injEq] at heq
  obtain ⟨hdigits, hrest⟩ := heq
  constructor
  · have hc := List.reverse_injective (List.append_cancel_left hrest)
    exact (String.toList_injective hc).symm
  · exact (decimal_injective (List.reverse_injective hdigits)).symm

theorem memberCellId_not_mem_rootIds (c : String) (i : Nat) : memberCellId c i ∉ rootIds := by
  intro h
  have hlength : (memberCellId c i).toList.length = 1 := by
    simp only [rootIds, List.mem_cons, List.not_mem_nil, or_false] at h
    rcases h with h | h <;> rw [h] <;> rfl
  rw [toList_memberCellId, List.length_append, List.length_append] at hlength
  have hword : "-member-".toList.length = 8 := rfl
  omega

/-- The ids of the cells of the members of a class with the given cell id. -/
def rowIds (cellId : String) (n : Node) : List String :=
  if HasRows n then (List.range n.members.length).map (memberCellId cellId) else []

def memberCellIds (g : Graph) : List String :=
  g.nodes.flatMap fun n => rowIds (cellIdOf g n.id) n

theorem rowIds_of_hasRows (cellId : String) {n : Node} (h : HasRows n) :
    rowIds cellId n = n.members.zipIdx.map fun p => memberCellId cellId p.2 := by
  have hplaces : n.members.zipIdx.map (memberCellId cellId ∘ Prod.snd) =
      (List.range n.members.length).map (memberCellId cellId) := by
    rw [← List.map_map, List.zipIdx_map_snd, List.range_eq_range']
  rw [rowIds, if_pos h, ← hplaces]
  rfl

theorem map_id_rowReadings (cellId : String) (n : Node) :
    (rowReadings cellId n).map Cell.id = rowIds cellId n := by
  by_cases h : HasRows n
  · rw [rowReadings, if_pos h, rowIds_of_hasRows cellId h, List.map_map]
    rfl
  · rw [rowReadings, if_neg h, rowIds, if_neg h]
    rfl

theorem nodup_rowIds (cellId : String) (n : Node) : (rowIds cellId n).Nodup := by
  rw [rowIds]
  split
  · exact List.nodup_range.map fun i j h => (memberCellId_injective h).2
  · exact List.nodup_nil

theorem exists_of_mem_rowIds {cellId s : String} {n : Node} (h : s ∈ rowIds cellId n) :
    HasRows n ∧ ∃ i, s = memberCellId cellId i := by
  rw [rowIds] at h
  split at h
  · next hrows =>
    obtain ⟨i, -, rfl⟩ := List.mem_map.1 h
    exact ⟨hrows, i, rfl⟩
  · exact absurd h (by simp)

/-! ## Ids of all cells -/

section

variable {g : Graph}

theorem cellIdOf_injective {n m : Node} (hn : n ∈ g.nodes) (hm : m ∈ g.nodes)
    (h : cellIdOf g n.id = cellIdOf g m.id) : n = m := by
  have hids : n.id = m.id :=
    List.inj_on_of_nodup_map (nodup_map_lookupCellId g.nodup) (List.mem_map_of_mem hn)
      (List.mem_map_of_mem hm) h
  exact Graph.eq_of_id_eq hn hm hids

theorem cellIdOf_ne_empty {n : Node} (hn : n ∈ g.nodes) : cellIdOf g n.id ≠ "" :=
  (isMadeOf_lookupCellId g.nodup (List.mem_map_of_mem hn)).ne_empty

theorem cellIdOf_not_mem_rootIds {n : Node} (hn : n ∈ g.nodes) : cellIdOf g n.id ∉ rootIds :=
  lookupCellId_not_mem_rootIds g.nodup (List.mem_map_of_mem hn)

def nodeCellIds (g : Graph) : List String :=
  g.nodes.map fun n => cellIdOf g n.id

theorem nodeCellIds_eq (g : Graph) : nodeCellIds g = (cellIds g.nodeIds).map Prod.snd := by
  have hmap : g.nodeIds.map (lookupCellId (cellIds g.nodeIds)) = (cellIds g.nodeIds).map Prod.snd :=
    map_lookupCellId g.nodup
  rw [← hmap, nodeCellIds, Graph.nodeIds, List.map_map]
  rfl

theorem nodup_nodeCellIds (g : Graph) : (nodeCellIds g).Nodup := by
  have hnodup : (g.nodeIds.map (lookupCellId (cellIds g.nodeIds))).Nodup :=
    nodup_map_lookupCellId g.nodup
  rwa [Graph.nodeIds, List.map_map] at hnodup

theorem nodup_memberCellIds (g : Graph) : (memberCellIds g).Nodup := by
  rw [memberCellIds, List.nodup_flatMap]
  refine ⟨fun n _ => nodup_rowIds _ n, ?_⟩
  have hnodes : g.nodes.Pairwise (· ≠ ·) := List.Nodup.of_map _ g.nodup
  refine hnodes.imp_of_mem fun {n m} hn hm hne s hs hs' => ?_
  obtain ⟨-, i, rfl⟩ := exists_of_mem_rowIds hs
  obtain ⟨-, j, heq⟩ := exists_of_mem_rowIds hs'
  exact hne (cellIdOf_injective hn hm (memberCellId_injective heq).1)

theorem not_mem_rootIds_of_mem_memberCellIds {s : String} (h : s ∈ memberCellIds g) :
    s ∉ rootIds := by
  obtain ⟨n, -, hs⟩ := List.mem_flatMap.1 h
  obtain ⟨-, i, rfl⟩ := exists_of_mem_rowIds hs
  exact memberCellId_not_mem_rootIds _ i

theorem not_mem_of_mem_edgeCellIds {s : String} (h : s ∈ edgeCellIds g) :
    s ∉ nodeCellIds g ∧ s ∉ rootIds := by
  have hnew := not_mem_of_mem_assignEdgeIds h
  rw [List.mem_append, not_or] at hnew
  rw [nodeCellIds_eq]
  exact hnew

/-- No node and no edge has the id of a cell of a member. -/
structure HasOwnMemberIds (g : Graph) : Prop where
  nodes : ∀ s ∈ memberCellIds g, s ∉ nodeCellIds g
  edges : ∀ s ∈ memberCellIds g, s ∉ edgeCellIds g

theorem map_id_edgeReadings (g : Graph) : (edgeReadings g).map Cell.id = edgeCellIds g := by
  have hlength : (edgeCellIds g).length = g.validEdges.length := by
    rw [edgeCellIds, length_assignEdgeIds, List.length_map]
  rw [edgeReadings, List.map_map]
  exact List.map_snd_zip (Nat.le_of_eq hlength)

theorem map_id_nodeReadings_perm (g : Graph) :
    ((nodeReadings g).map Cell.id).Perm (nodeCellIds g ++ memberCellIds g) := by
  have hids : (nodeReadings g).map Cell.id =
      g.nodes.flatMap fun n => [cellIdOf g n.id] ++ rowIds (cellIdOf g n.id) n := by
    rw [nodeReadings, List.map_flatMap]
    refine List.flatMap_congr fun n _ => ?_
    rw [List.map_cons, map_id_rowReadings]
    rfl
  rw [hids, nodeCellIds, memberCellIds, List.map_eq_flatMap]
  exact (List.flatMap_append_perm ..).symm

/-- The cells of a written graph have distinct ids. -/
theorem nodup_map_id_readings (h : HasOwnMemberIds g) : ((readings g).map Cell.id).Nodup := by
  have hroots : rootReadings.map Cell.id = rootIds := rfl
  have hnodes : ((nodeReadings g).map Cell.id).Nodup := by
    rw [(map_id_nodeReadings_perm g).nodup_iff, List.nodup_append]
    exact ⟨nodup_nodeCellIds g, nodup_memberCellIds g, fun s hs t ht heq => h.nodes t ht (heq ▸ hs)⟩
  rw [readings, List.map_append, List.map_append, hroots, map_id_edgeReadings, List.nodup_append,
    List.nodup_append]
  refine ⟨⟨by decide, hnodes, fun s hs t ht heq => ?_⟩, nodup_assignEdgeIds .., fun s hs t ht heq => ?_⟩
  · rw [(map_id_nodeReadings_perm g).mem_iff, List.mem_append] at ht
    rcases ht with ht | ht
    · obtain ⟨n, hn, hid⟩ := List.mem_map.1 ht
      exact cellIdOf_not_mem_rootIds hn (hid ▸ heq ▸ hs)
    · exact not_mem_rootIds_of_mem_memberCellIds ht (heq ▸ hs)
  · subst heq
    obtain ⟨hnode, hroot⟩ := not_mem_of_mem_edgeCellIds ht
    rcases List.mem_append.1 hs with hs | hs
    · exact hroot hs
    · rw [(map_id_nodeReadings_perm g).mem_iff, List.mem_append] at hs
      exact hs.elim hnode fun hmember => h.edges s hmember ht

/-- What is asked for is needed. -/
theorem hasOwnMemberIds_of_nodup (h : ((readings g).map Cell.id).Nodup) : HasOwnMemberIds g := by
  rw [readings, List.map_append, List.map_append, map_id_edgeReadings, List.nodup_append,
    List.nodup_append] at h
  obtain ⟨⟨-, hnodes, -⟩, -, hedges⟩ := h
  rw [(map_id_nodeReadings_perm g).nodup_iff, List.nodup_append] at hnodes
  refine ⟨fun s hs hnode => hnodes.2.2 s hnode s hs rfl, fun s hs hedge => ?_⟩
  refine hedges s (List.mem_append_right _ ?_) s hedge rfl
  exact (map_id_nodeReadings_perm g).mem_iff.2 (List.mem_append_right _ hs)

end

/-! ## The layout changes no id -/

theorem cellIdOf_layout (g : Graph) : cellIdOf g.layout = cellIdOf g := by
  funext id
  rw [cellIdOf, Graph.nodeIds_layout, cellIdOf]

theorem edgeCellIds_layout (g : Graph) : edgeCellIds g.layout = edgeCellIds g := by
  rw [edgeCellIds, Graph.nodeIds_layout, Graph.validEdges_layout, edgeCellIds]

theorem memberCellIds_layout (g : Graph) : memberCellIds g.layout = memberCellIds g := by
  rw [memberCellIds, memberCellIds, Graph.nodes_layout, List.flatMap_map, cellIdOf_layout]
  refine List.flatMap_congr fun n _ => ?_
  obtain ⟨box, hbox⟩ := Layout.exists_settleNode_eq (Layout.places g) n
  rw [hbox]
  rfl

theorem nodeCellIds_layout (g : Graph) : nodeCellIds g.layout = nodeCellIds g := by
  rw [nodeCellIds_eq, nodeCellIds_eq, Graph.nodeIds_layout]

theorem hasOwnMemberIds_layout {g : Graph} : HasOwnMemberIds g.layout ↔ HasOwnMemberIds g := by
  constructor
  · rintro ⟨hnodes, hedges⟩
    rw [memberCellIds_layout] at hnodes hedges
    rw [nodeCellIds_layout] at hnodes
    rw [edgeCellIds_layout] at hedges
    exact ⟨hnodes, hedges⟩
  · rintro ⟨hnodes, hedges⟩
    rw [← memberCellIds_layout] at hnodes hedges
    rw [← nodeCellIds_layout] at hnodes
    rw [← edgeCellIds_layout] at hedges
    exact ⟨hnodes, hedges⟩

/-! ## Ids of elements -/

/-- The id of an element, which is empty if it has none. -/
def idOf (e : Element) : String :=
  (e.attribute? "id").getD ""

/-- The ids of all cells inside an element, in document order. -/
def cellElementIds (e : Element) : List String :=
  (e.descendantsTagged cellTag).map idOf

/-- The ids of all cells among several elements and inside them. -/
def forestCellIds (es : List Element) : List String :=
  ((Element.forestElements es).filter (·.tag == cellTag)).map idOf

/-- Among the elements inside a graph model, those that are no root stand inside the root. -/
theorem filter_descendants_page {p : Element → Bool}
    (hroot : ∀ es, p (element rootTag [] es) = false) (es : List Element) :
    (element modelTag [] [element rootTag [] es]).descendants.filter p =
      (Element.forestElements es).filter p := by
  have hdescendants : (element modelTag [] [element rootTag [] es]).descendants =
      element rootTag [] es :: Element.forestElements es := List.append_nil _
  rw [hdescendants, List.filter_cons_of_neg]
  rw [hroot es]
  exact Bool.false_ne_true

theorem forestCellIds_append (es fs : List Element) :
    forestCellIds (es ++ fs) = forestCellIds es ++ forestCellIds fs := by
  rw [forestCellIds, Element.forestElements_append, List.filter_append, List.map_append]
  rfl

theorem forestCellIds_flatMap {α : Type} (f : α → List Element) (as : List α) :
    forestCellIds (as.flatMap f) = as.flatMap fun a => forestCellIds (f a) := by
  rw [forestCellIds, Element.forestElements_flatMap, List.filter_flatMap, List.map_flatMap]
  rfl

theorem forestCellIds_vertexCell (id label style parent : String) (box : Option Geometry) :
    forestCellIds [vertexCell id label style parent box] = [id] := by
  cases box <;> rfl

theorem forestCellIds_nodeCells (cellId : String) (n : Node) :
    forestCellIds (nodeCells cellId n) = cellId :: rowIds cellId n := by
  by_cases h : HasRows n
  · have hkind : n.kind = .classLike ∧ n.members ≠ [] := h
    have hrows (members : List (String × Nat)) : forestCellIds
        (members.flatMap fun p => [memberCell cellId n.geometry p.1 p.2]) =
          members.map fun p => memberCellId cellId p.2 := by
      rw [forestCellIds_flatMap, List.map_eq_flatMap]
      exact List.flatMap_congr fun p _ => forestCellIds_vertexCell ..
    rw [nodeCells, if_pos hkind, classCells, List.map_eq_flatMap, ← List.singleton_append,
      forestCellIds_append, forestCellIds_vertexCell, hrows, rowIds_of_hasRows cellId h]
    rfl
  · have hkind : ¬ (n.kind = .classLike ∧ n.members ≠ []) := h
    rw [nodeCells, if_neg hkind, forestCellIds_vertexCell, rowIds, if_neg h]

theorem forestCellIds_edgeCells (g : Graph) :
    forestCellIds (edgeCells (cellIds g.nodeIds) g.validEdges) = edgeCellIds g := by
  have hedges (cellsOfEdges : List (Edge × String)) : forestCellIds
      (cellsOfEdges.flatMap fun p =>
        [edgeCell p.2 (cellIdOf g p.1.source) (cellIdOf g p.1.target) p.1]) =
        cellsOfEdges.map (·.2) := by
    rw [forestCellIds_flatMap, List.map_eq_flatMap]
    rfl
  have hlength : (edgeCellIds g).length = g.validEdges.length := by
    rw [edgeCellIds, length_assignEdgeIds, List.length_map]
  rw [edgeCells, List.map_eq_flatMap]
  exact (hedges _).trans (List.map_snd_zip (Nat.le_of_eq hlength))

/-- The cells that are written are those that are read. -/
theorem cellElementIds_modelOfPlaced (g : Graph) :
    cellElementIds (modelOfPlaced g) = (readings g).map Cell.id := by
  have hroot (es : List Element) :
      cellElementIds (element modelTag [] [element rootTag [] es]) = forestCellIds es := by
    have htag (es : List Element) : ((element rootTag [] es).tag == cellTag) = false :=
      (by decide : (rootTag == cellTag) = false)
    rw [cellElementIds, Element.descendantsTagged, filter_descendants_page htag]
    rfl
  have hnodes : forestCellIds
      (g.nodes.flatMap fun n => nodeCells (lookupCellId (cellIds g.nodeIds) n.id) n) =
        (nodeReadings g).map Cell.id := by
    rw [forestCellIds_flatMap, nodeReadings, List.map_flatMap]
    refine List.flatMap_congr fun n _ => ?_
    rw [forestCellIds_nodeCells, List.map_cons, map_id_rowReadings]
    rfl
  rw [modelOfPlaced, hroot, forestCellIds_append, forestCellIds_append, hnodes,
    forestCellIds_edgeCells, readings, List.map_append, List.map_append, map_id_edgeReadings]
  rfl

/-- **Ids of cells.** In the model of a graph every cell has an id, and the ids are pairwise distinct
exactly when no node and no edge has the id of a cell of a member. -/
theorem cellElementIds_model (g : Graph) :
    (∀ id ∈ cellElementIds (model g), id ≠ "") ∧
      ((cellElementIds (model g)).Nodup ↔ HasOwnMemberIds g) := by
  have hids : cellElementIds (model g) = (cells (model g)).map Cell.id := by
    rw [model, cellElementIds_modelOfPlaced, cells_modelOfPlaced]
  constructor
  · rw [hids]
    intro id hid
    obtain ⟨c, hc, rfl⟩ := List.mem_map.1 hid
    exact id_ne_empty_of_mem_cellsOf false (model g) c hc
  · rw [hids, model, cells_modelOfPlaced, ← hasOwnMemberIds_layout]
    exact ⟨hasOwnMemberIds_of_nodup, nodup_map_id_readings⟩

/-- A class with a member, and a node that has the id of the cell of this member. -/
def clashGraph : Graph where
  nodes :=
    [{ id := "A", label := "A", shape := .classBox, kind := .classLike, members := ["x"] },
     { id := "A-member-0", label := "A-member-0", shape := .classBox, kind := .classLike }]
  edges := []
  subgraphs := []
  settled := []
  nodup := by decide

theorem not_nodup_clashGraph : ¬ (cellElementIds (model clashGraph)).Nodup := by
  decide

end DiagramBridge.Drawio
