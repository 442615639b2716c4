import DiagramBridge.Proofs.Drawio.Document
import DiagramBridge.Proofs.Drawio.Returned

/-!
# Writing a drawing and reading it

A graph that is written as a drawing and read again comes back with its nodes, its members and its
valid edges. Nothing is asked of labels but that a document can hold them; of classes with members
it is asked that they keep a title and a member as labels, and that no other cell happens to have
the id of one of their rows.
-/

namespace DiagramBridge.Drawio

open Xml

variable {g : Graph}

/-! ## The layout changes nothing that comes back -/

theorem returnedEdges_layout (g : Graph) : returnedEdges g.layout = returnedEdges g := by
  rw [returnedEdges, Graph.validEdges_layout, edgeCellIds_layout, cellIdOf_layout, returnedEdges]

theorem map_returnedNode_layout (g : Graph) :
    (g.layout.nodes.map fun n => returnedNode (cellIdOf g.layout n.id) n) =
      g.nodes.map fun n => returnedNode (cellIdOf g n.id) n := by
  rw [Graph.nodes_layout, List.map_map, cellIdOf_layout]
  refine List.map_congr_left fun n _ => ?_
  obtain ⟨box, hbox⟩ := Layout.exists_settleNode_eq (Layout.places g) n
  rw [Function.comp_apply, hbox]
  rfl

theorem HasReadableClasses.layout (h : HasReadableClasses g) : HasReadableClasses g.layout where
  title n hn hrows := by
    obtain ⟨m, hm, box, rfl⟩ := Graph.exists_of_mem_layout hn
    exact h.title m hm hrows
  shape n hn hrows := by
    obtain ⟨m, hm, box, rfl⟩ := Graph.exists_of_mem_layout hn
    exact h.shape m hm hrows
  member n hn hrows := by
    obtain ⟨m, hm, box, rfl⟩ := Graph.exists_of_mem_layout hn
    exact h.member m hm hrows

/-! ## The round trip -/

/-- The graph that is read where a graph was written. -/
def returnedGraph (g : Graph) : Graph :=
  extract (readings g.layout)

theorem nodes_returnedGraph (hclasses : HasReadableClasses g) (hown : HasOwnMemberIds g) :
    (returnedGraph g).nodes.map Node.unplaced =
      g.nodes.map fun n => returnedNode (cellIdOf g n.id) n := by
  rw [← map_returnedNode_layout]
  exact nodes_extract_readings (hasOwnMemberIds_layout.2 hown) hclasses.layout

theorem edges_returnedGraph (hclasses : HasReadableClasses g) (hown : HasOwnMemberIds g) :
    (returnedGraph g).edges = returnedEdges g := by
  rw [← returnedEdges_layout]
  exact edges_extract_readings (hasOwnMemberIds_layout.2 hown) hclasses.layout

theorem id_returnedNode (cellId : String) (n : Node) : (returnedNode cellId n).id = cellId := by
  rw [returnedNode]
  split <;> rfl

theorem nodeIds_returnedGraph (hclasses : HasReadableClasses g) (hown : HasOwnMemberIds g) :
    (returnedGraph g).nodeIds = g.nodes.map fun n => cellIdOf g n.id := by
  calc (returnedGraph g).nodeIds
      = ((returnedGraph g).nodes.map Node.unplaced).map Node.id := by
        rw [List.map_map]
        rfl
    _ = g.nodes.map fun n => cellIdOf g n.id := by
        rw [nodes_returnedGraph hclasses hown, List.map_map]
        exact List.map_congr_left fun n _ => id_returnedNode _ n

/-- The ends of every edge that comes back are nodes that came back. -/
theorem validEdges_returnedGraph (hclasses : HasReadableClasses g) (hown : HasOwnMemberIds g) :
    (returnedGraph g).validEdges = returnedEdges g := by
  have hnode : ∀ id ∈ g.nodeIds, (returnedGraph g).hasNode (cellIdOf g id) = true := by
    intro id hid
    obtain ⟨n, hn, rfl⟩ := List.mem_map.1 hid
    rw [Graph.hasNode_iff_mem_nodeIds, nodeIds_returnedGraph hclasses hown]
    exact List.mem_map_of_mem hn
  rw [Graph.validEdges, edges_returnedGraph hclasses hown, List.filter_eq_self]
  intro e he
  obtain ⟨⟨k, cellId⟩, hk, rfl⟩ := List.mem_map.1 he
  obtain ⟨-, hsource, htarget⟩ := Graph.mem_validEdges.1 (List.of_mem_zip hk).1
  rw [Bool.and_eq_true]
  exact ⟨hnode _ hsource, hnode _ htarget⟩

theorem nodes_returnedGraph_ne_nil (hne : g.nodes ≠ []) (hclasses : HasReadableClasses g)
    (hown : HasOwnMemberIds g) : (returnedGraph g).nodes ≠ [] := by
  intro hnil
  have hmap := nodes_returnedGraph hclasses hown
  rw [hnil] at hmap
  exact hne (List.map_eq_nil_iff.1 hmap.symm)

/-- A drawing that was written is read. -/
theorem result_read_write (hne : g.nodes ≠ []) (hlegal : HasLegalTexts g)
    (hclasses : HasReadableClasses g) (hown : HasOwnMemberIds g) :
    ∃ count, (read (write g false defaultPageName) 0).result = .ok ⟨returnedGraph g, 0, count⟩ := by
  have hcells : cells (model g) = readings g.layout := cells_modelOfPlaced g.layout
  have hname : IsLegal defaultPageName := by decide
  have hvalues : (model g).All Element.HasLegalValues :=
    (Element.isPlain_iff.1 (isPlain_modelOfPlaced hlegal.layout)).2
  have hnodes : (returnedGraph g).nodes.isEmpty = false :=
    List.isEmpty_eq_false_iff.2 (nodes_returnedGraph_ne_nil hne hclasses hown)
  refine ⟨1, ?_⟩
  rw [result_read_write_of_legal hname hvalues, readingOf, hcells]
  exact if_neg (by simpa [returnedGraph] using hnodes)

/-- A class with an empty member, a node whose id is that of a root cell, and an edge to nowhere. -/
def orderGraph : Graph where
  nodes :=
    [{ id := "Order", label := "Order", shape := .classBox, kind := .classLike,
       members := ["+id : Int", ""] },
     { id := "0", label := "a < \"b\"\n\n [c]", shape := .diamond }]
  edges :=
    [{ id := "", source := "Order", target := "0", label := " uses  it ",
       relation := some .dependency },
     { id := "", source := "0", target := "nowhere" }]
  subgraphs := []
  settled := []
  nodup := by decide

end DiagramBridge.Drawio
