import DiagramBridge.Drawio.Writer
import DiagramBridge.Proofs.Diagram.Layout
import DiagramBridge.Proofs.Drawio.CellId
import DiagramBridge.Proofs.Operation

/-!
# Drawing a graph fills in what it lacks

Cell ids are given to all nodes, and the ends of a valid edge are nodes, so the only thing that can
be missing in a drawing is a box. A graph that is laid out has all of them. So drawing never fails,
and since all that it leaves behind is the layout, drawing again gives the same text.
-/

namespace DiagramBridge.Drawio

open Xml

/-- Steps that only compute can be taken at once. -/
theorem mapM_eq_pure {α β : Type} {m : Type → Type} [Monad m] [LawfulMonad m] {f : α → m β}
    {g : α → β} {l : List α} (h : ∀ a ∈ l, f a = pure (g a)) : l.mapM f = pure (l.map g) := by
  induction l with
  | nil => rw [List.mapM_nil, List.map_nil]
  | cons a l ih =>
      rw [List.mapM_cons, h a (by simp), ih fun b hb => h b (by simp [hb]), pure_bind, pure_bind,
        List.map_cons]

/-! ## Nothing is missing -/

variable {g : Graph}

theorem findCellId_of_mem {id : String} (h : id ∈ g.nodeIds) :
    findCellId (cellIds g.nodeIds) id = .ok (lookupCellId (cellIds g.nodeIds) id) := by
  have hfst : (cellIds g.nodeIds).map Prod.fst = g.nodeIds := by
    rw [cellIds, assignCellIds_eq, Text.map_fst_assignNames]
  have hnodup : ((cellIds g.nodeIds).map Prod.fst).Nodup := hfst.symm ▸ g.nodup
  rw [← hfst] at h
  obtain ⟨p, hp, rfl⟩ := List.mem_map.1 h
  rw [findCellId, lookupCellId, Text.lookup_of_mem hnodup hp]
  rfl

theorem findNodeCells_of_isPlaced {n : Node} (hn : n ∈ g.nodes) (hplaced : n.isPlaced = true) :
    findNodeCells (cellIds g.nodeIds) n =
      .ok (nodeCells (lookupCellId (cellIds g.nodeIds) n.id) n) := by
  obtain ⟨box, hbox⟩ := Node.exists_geometry_of_isPlaced hplaced
  rw [findNodeCells, findCellId_of_mem (List.mem_map_of_mem hn), hbox]
  rfl

theorem findEdgeCell_of_mem {e : Edge} (he : e ∈ g.validEdges) (cellId : String) :
    findEdgeCell (cellIds g.nodeIds) cellId e =
      .ok (edgeCell cellId (lookupCellId (cellIds g.nodeIds) e.source)
        (lookupCellId (cellIds g.nodeIds) e.target) e) := by
  obtain ⟨-, hsource, htarget⟩ := Graph.mem_validEdges.1 he
  rw [findEdgeCell, findCellId_of_mem hsource, findCellId_of_mem htarget]
  rfl

/-- What is found in a graph whose nodes all have boxes is its model. -/
theorem findModel_of_isPlaced (h : ∀ n ∈ g.nodes, n.isPlaced = true) :
    findModel g = .ok (modelOfPlaced g) := by
  have hnodes : g.nodes.mapM (findNodeCells (cellIds g.nodeIds)) =
      .ok (g.nodes.map fun n => nodeCells (lookupCellId (cellIds g.nodeIds) n.id) n) :=
    mapM_eq_pure fun n hn => findNodeCells_of_isPlaced hn (h n hn)
  have hedges (edgeIds : List String) : ((g.validEdges.zip edgeIds).mapM fun p =>
      findEdgeCell (cellIds g.nodeIds) p.2 p.1) =
        .ok ((g.validEdges.zip edgeIds).map fun p =>
          edgeCell p.2 (lookupCellId (cellIds g.nodeIds) p.1.source)
            (lookupCellId (cellIds g.nodeIds) p.1.target) p.1) :=
    mapM_eq_pure fun p hp => findEdgeCell_of_mem (List.of_mem_zip hp).1 p.2
  rw [findModel, hnodes, modelOfPlaced, List.flatMap_def]
  dsimp only [bind, Except.bind]
  rw [hedges]
  rfl

/-! ## Drawing -/

/-- All that is left of the drawing is the layout. -/
theorem draw_eq (g : Graph) (compress : Bool) (pageName : String) :
    draw compress pageName g = ⟨[], .ok (write g compress pageName), g.layout⟩ := by
  have hmodel : findModel g.layout = .ok (model g) :=
    findModel_of_isPlaced fun _ hn => Graph.isPlaced_of_mem_layout hn
  rw [draw, Operation.look_bind]
  split
  · simp only [Operation.change_bind, Operation.look_bind, hmodel]
    rfl
  · next hplaced =>
    have hself : g.layout = g := Graph.layout_eq_self (by simpa using hplaced)
    rw [hself] at hmodel
    simp only [Operation.look_bind, hmodel, hself]
    rfl

end DiagramBridge.Drawio
