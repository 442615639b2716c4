import DiagramBridge.Proofs.Drawio.RoundTrip
import DiagramBridge.Proofs.Mermaid.Identifier

/-!
# Graphs whose ids are safe

An id that is safe in Mermaid is also free to be the id of a cell, since the two cells that hold a
drawing are numbered and no safe id begins with a digit. So nodes with safe ids keep their ids on
the way through a drawing and back, and edges keep their ends.
-/

namespace DiagramBridge

open Drawio Mermaid Text Xml

/-- Every id is a Mermaid id already. -/
def HasSafeIds (g : Graph) : Prop :=
  ∀ id ∈ g.nodeIds, safeId id = id

instance (g : Graph) : Decidable (HasSafeIds g) :=
  inferInstanceAs (Decidable (∀ id ∈ g.nodeIds, safeId id = id))

section

variable {g : Graph} (hsafe : HasSafeIds g)
include hsafe

theorem HasSafeIds.isWord_of_mem {id : String} (hid : id ∈ g.nodeIds) :
    ∀ c ∈ id.toList, isWord c = true := by
  rw [← hsafe id hid]
  exact fun c => isWord_of_mem_safeId

theorem HasSafeIds.isLegal {id : String} (hid : id ∈ g.nodeIds) : IsLegal id :=
  isLegal_of_isWord (hsafe.isWord_of_mem hid)

theorem HasSafeIds.not_mem_rootIds {id : String} (hid : id ∈ g.nodeIds) : id ∉ rootIds := by
  intro hroot
  have hdigit : Stops isDigit id.toList := hsafe id hid ▸ stops_safeId id
  have hroots : ∀ id ∈ rootIds, ¬ Stops isDigit id.toList := by decide
  exact hroots id hroot hdigit

theorem HasSafeIds.cellIdOf_eq {id : String} (hid : id ∈ g.nodeIds) : cellIdOf g id = id := by
  refine lookupCellId_of_free g.nodup (fun i hi => ?_) (fun i hi => hsafe.not_mem_rootIds hi) hid
  rw [← hsafe i hi]
  exact safeId_ne_empty i

/-- What does not depend on the ids of edges is kept for every edge that is valid. -/
theorem HasSafeIds.map_returnedEdges {α : Type} (f : Edge → α)
    (hf : ∀ cellId source target e, f (returnedEdge cellId source target e) =
      f (returnedEdge "" source target e)) :
    (returnedEdges g).map f =
      g.validEdges.map fun e => f (returnedEdge "" e.source e.target e) := by
  have hlength : g.validEdges.length ≤ (edgeCellIds g).length := by
    rw [edgeCellIds, length_assignEdgeIds, List.length_map]
  calc (returnedEdges g).map f
      = ((g.validEdges.zip (edgeCellIds g)).map Prod.fst).map
          fun e => f (returnedEdge "" e.source e.target e) := by
        rw [returnedEdges, List.map_map, List.map_map]
        refine List.map_congr_left fun p hp => ?_
        obtain ⟨-, hsource, htarget⟩ := Graph.mem_validEdges.1 (List.of_mem_zip hp).1
        rw [Function.comp_apply, Function.comp_apply, hf, hsafe.cellIdOf_eq hsource,
          hsafe.cellIdOf_eq htarget]
    _ = g.validEdges.map fun e => f (returnedEdge "" e.source e.target e) := by
        rw [List.map_fst_zip hlength]

/-- Cells of members are told from cells of nodes and edges by the dashes in their ids. -/
theorem HasSafeIds.hasOwnMemberIds (hedges : ∀ e ∈ g.edges, ∀ c ∈ e.id.toList, isWord c = true) :
    HasOwnMemberIds g := by
  have hdash : ∀ s ∈ memberCellIds g, ∃ c ∈ s.toList, isWord c = false := by
    intro s hs
    obtain ⟨n, -, hs⟩ := List.mem_flatMap.1 hs
    rw [rowIds] at hs
    split at hs
    · obtain ⟨i, -, rfl⟩ := List.mem_map.1 hs
      refine ⟨'-', ?_, by decide⟩
      rw [toList_memberCellId, List.mem_append, List.mem_append]
      exact Or.inl (Or.inr (by decide))
    · exact absurd hs List.not_mem_nil
  have hother : ∀ s ∈ memberCellIds g, ∀ t : String, (∀ c ∈ t.toList, isWord c = true) → s ≠ t := by
    rintro s hs t ht rfl
    obtain ⟨c, hc, hword⟩ := hdash s hs
    rw [ht c hc] at hword
    exact absurd hword (by simp)
  constructor
  · intro s hs hnode
    obtain ⟨n, hn, heq⟩ := List.mem_map.1 hnode
    have hid : n.id ∈ g.nodeIds := List.mem_map_of_mem hn
    rw [hsafe.cellIdOf_eq hid] at heq
    exact hother s hs _ (hsafe.isWord_of_mem hid) heq.symm
  · intro s hs hedge
    refine hother s hs s (fun c hc => ?_) rfl
    obtain ⟨id, hid, hmade⟩ := exists_isMadeOf_of_mem_assignEdgeIds hedge
    rcases hmade.chars c hc with hc | hword
    · obtain ⟨e, he, rfl⟩ := List.mem_map.1 hid
      exact hedges e (Graph.mem_validEdges.1 he).1 c hc
    · exact hword

variable (hclasses : HasReadableClasses g) (hown : HasOwnMemberIds g)
include hclasses hown

/-- A graph that comes back is written under the same ids again. -/
theorem HasSafeIds.idOf_returnedGraph {id : String} (hid : id ∈ (returnedGraph g).nodeIds) :
    idOf (returnedGraph g) id = id := by
  have hids : (returnedGraph g).nodeIds = g.nodeIds := by
    rw [nodeIds_returnedGraph hclasses hown, Graph.nodeIds]
    exact List.map_congr_left fun n hn => hsafe.cellIdOf_eq (List.mem_map_of_mem hn)
  exact idOf_of_safe hid (by rw [hids]; exact hsafe)

/-! ## What the graph that comes back consists of -/

/-- The nodes that come back, as far as their boxes do not matter. -/
theorem HasSafeIds.map_nodes_returnedGraph {α : Type} {f : Node → α}
    (hf : ∀ n, f n.unplaced = f n) :
    (returnedGraph g).nodes.map f = g.nodes.map fun n => f (returnedNode n.id n) := by
  calc (returnedGraph g).nodes.map f
      = ((returnedGraph g).nodes.map Node.unplaced).map f := by
        rw [List.map_map]
        exact List.map_congr_left fun n _ => (hf n).symm
    _ = g.nodes.map fun n => f (returnedNode n.id n) := by
        rw [nodes_returnedGraph hclasses hown, List.map_map]
        refine List.map_congr_left fun n hn => ?_
        rw [Function.comp_apply, hsafe.cellIdOf_eq (List.mem_map_of_mem hn)]

theorem HasSafeIds.forall_nodes_returnedGraph {P : Node → Prop} (hP : ∀ n, P n.unplaced → P n)
    (h : ∀ n ∈ g.nodes, P (returnedNode n.id n)) : ∀ n ∈ (returnedGraph g).nodes, P n := by
  intro n hn
  have hmem : n.unplaced ∈ (returnedGraph g).nodes.map Node.unplaced := List.mem_map_of_mem hn
  rw [nodes_returnedGraph hclasses hown] at hmem
  obtain ⟨k, hk, heq⟩ := List.mem_map.1 hmem
  rw [hsafe.cellIdOf_eq (List.mem_map_of_mem hk)] at heq
  exact hP n (heq ▸ h k hk)

theorem HasSafeIds.forall_validEdges_returnedGraph {P : Edge → Prop}
    (h : ∀ e ∈ g.validEdges, ∀ cellId, P (returnedEdge cellId e.source e.target e)) :
    ∀ e ∈ (returnedGraph g).validEdges, P e := by
  rw [validEdges_returnedGraph hclasses hown]
  intro e he
  obtain ⟨⟨k, cellId⟩, hk, rfl⟩ := List.mem_map.1 he
  have hmem := (List.of_mem_zip hk).1
  obtain ⟨-, hsource, htarget⟩ := Graph.mem_validEdges.1 hmem
  change P (returnedEdge cellId (cellIdOf g k.source) (cellIdOf g k.target) k)
  rw [hsafe.cellIdOf_eq hsource, hsafe.cellIdOf_eq htarget]
  exact h k hmem cellId

/-- The edges that come back, written between Mermaid ids and with new ids of their own. -/
theorem HasSafeIds.map_validEdges_returnedGraph {α : Type} {f : (String → String) → Edge → α}
    (hf : ∀ cellId source target e, f id (returnedEdge cellId source target e) =
      f id (returnedEdge "" source target e))
    (hids : ∀ ids e, ids e.source = e.source → ids e.target = e.target → f ids e = f id e) :
    (returnedGraph g).validEdges.map (f (idOf (returnedGraph g))) =
      g.validEdges.map fun e => f id (returnedEdge "" e.source e.target e) := by
  calc (returnedGraph g).validEdges.map (f (idOf (returnedGraph g)))
      = (returnedGraph g).validEdges.map (f id) := by
        refine List.map_congr_left fun e he => ?_
        obtain ⟨-, hsource, htarget⟩ := Graph.mem_validEdges.1 he
        exact hids _ e (hsafe.idOf_returnedGraph hclasses hown hsource)
          (hsafe.idOf_returnedGraph hclasses hown htarget)
    _ = (returnedEdges g).map (f id) := by rw [validEdges_returnedGraph hclasses hown]
    _ = g.validEdges.map fun e => f id (returnedEdge "" e.source e.target e) :=
        hsafe.map_returnedEdges _ hf

end

end DiagramBridge
