import DiagramBridge.Diagram.Graph
import DiagramBridge.Drawio.CellId
import DiagramBridge.Proofs.Text.Fresh
import DiagramBridge.Proofs.Text.Search

/-!
# Ids of cells are their own

Every id that is given is new among those given before it, so the ids of nodes and edges are
pairwise distinct, none is empty, and none is that of a root cell. A node whose id is free keeps it.
-/

namespace DiagramBridge.Drawio

open Text

theorem isFreeId_iff {used : List String} {id : String} :
    isFreeId used id = true ↔ id ≠ "" ∧ id ∉ used := by
  simp [isFreeId]

/-! ## One id -/

theorem nodeCellId_not_mem (used : List String) (id : String) : nodeCellId used id ∉ used :=
  numberedName_not_mem used _

theorem nodeCellId_of_free {used : List String} {id : String} (hne : id ≠ "") (hnew : id ∉ used) :
    nodeCellId used id = id := by
  rw [nodeCellId, if_pos (isFreeId_iff.2 ⟨hne, hnew⟩), numberedName_of_not_mem hnew]

theorem edgeCellId_not_mem (used : List String) (index : Nat) (id : String) :
    edgeCellId used index id ∉ used :=
  lengthenedName_not_mem used _

/-- A cell id that is made of the id of a node or an edge: it is not empty, and all its characters are
those of the other id and word characters. -/
structure IsMadeOf (id cellId : String) : Prop where
  ne_empty : cellId ≠ ""
  chars : ∀ c ∈ cellId.toList, c ∈ id.toList ∨ isWord c = true

theorem isMadeOf_self {id : String} (h : id ≠ "") : IsMadeOf id id :=
  ⟨h, fun _ => Or.inl⟩

theorem isMadeOf_of_isWord {id cellId : String} (hne : cellId ≠ "")
    (hword : ∀ c ∈ cellId.toList, isWord c = true) : IsMadeOf id cellId :=
  ⟨hne, fun c hc => Or.inr (hword c hc)⟩

theorem IsMadeOf.append {id front back : String} (h : IsMadeOf id front)
    (hback : ∀ c ∈ back.toList, c ∈ id.toList ∨ isWord c = true) : IsMadeOf id (front ++ back) := by
  refine ⟨append_ne_empty h.ne_empty back, fun c hc => ?_⟩
  rw [String.toList_append, List.mem_append] at hc
  exact hc.elim (h.chars c) (hback c)

/-- The name that is tried first is the id itself where it is free, and another one elsewhere. -/
theorem isMadeOf_ite {used : List String} {id other : String} (h : IsMadeOf id other) :
    IsMadeOf id (if isFreeId used id then id else other) := by
  split
  · next hfree => exact isMadeOf_self (isFreeId_iff.1 hfree).1
  · exact h

theorem isMadeOf_nodeCellId (used : List String) (id : String) :
    IsMadeOf id (nodeCellId used id) := by
  have hnode : IsMadeOf id "node_" := isMadeOf_of_isWord (by decide) (by decide)
  obtain ⟨s, heq, hs⟩ := numberedName_eq_append used (if isFreeId used id then id else "node_" ++ id)
  rw [nodeCellId, heq]
  exact (isMadeOf_ite (hnode.append fun c => Or.inl)).append fun c hc => Or.inr (hs c hc)

theorem isMadeOf_edgeCellId (used : List String) (index : Nat) (id : String) :
    IsMadeOf id (edgeCellId used index id) := by
  have hedge : IsMadeOf id "edge_" := isMadeOf_of_isWord (by decide) (by decide)
  have hnumbered : IsMadeOf id ("edge_" ++ decimalString index) := by
    refine hedge.append fun c hc => Or.inr (isWord_of_mem_decimal (n := index) ?_)
    rwa [toList_decimalString] at hc
  obtain ⟨s, heq, hs⟩ := lengthenedName_eq_append used
    (if isFreeId used id then id else "edge_" ++ decimalString index)
  rw [edgeCellId, heq]
  exact (isMadeOf_ite hnumbered).append fun c hc => Or.inr (hs c hc)

/-- No character of an id gets lost. -/
theorem mem_nodeCellId_of_mem (used : List String) {id : String} {c : Char} (h : c ∈ id.toList) :
    c ∈ (nodeCellId used id).toList := by
  obtain ⟨s, heq, -⟩ := numberedName_eq_append used (if isFreeId used id then id else "node_" ++ id)
  rw [nodeCellId, heq, String.toList_append, List.mem_append]
  refine Or.inl ?_
  split
  · exact h
  · rw [String.toList_append]
    exact List.mem_append_right _ h

/-! ## The ids of all nodes -/

theorem assignCellIds_eq (used ids : List String) :
    assignCellIds used ids = assignNames nodeCellId used ids := by
  induction ids generalizing used with
  | nil => rfl
  | cons id ids ih => rw [assignCellIds, assignNames, ih]

theorem lookupCellId_cellIds (ids : List String) (id : String) :
    lookupCellId (cellIds ids) id = lookupName (assignNames nodeCellId rootIds ids) id := by
  rw [cellIds, assignCellIds_eq]
  rfl

section Nodes

variable {ids : List String} (hnodup : ids.Nodup)
include hnodup

theorem map_lookupCellId : ids.map (lookupCellId (cellIds ids)) = (cellIds ids).map Prod.snd := by
  rw [List.map_congr_left fun id _ => lookupCellId_cellIds ids id, cellIds, assignCellIds_eq]
  exact map_lookupName hnodup

theorem nodup_map_lookupCellId : (ids.map (lookupCellId (cellIds ids))).Nodup := by
  rw [List.map_congr_left fun id _ => lookupCellId_cellIds ids id]
  exact nodup_map_lookupName hnodup nodeCellId_not_mem

theorem lookupCellId_not_mem_rootIds {id : String} (h : id ∈ ids) :
    lookupCellId (cellIds ids) id ∉ rootIds := by
  rw [lookupCellId_cellIds]
  exact lookupName_not_mem hnodup nodeCellId_not_mem h

theorem isMadeOf_lookupCellId {id : String} (h : id ∈ ids) :
    IsMadeOf id (lookupCellId (cellIds ids) id) := by
  obtain ⟨used, heq⟩ := exists_lookupName_eq hnodup nodeCellId rootIds h
  rw [lookupCellId_cellIds, heq]
  exact isMadeOf_nodeCellId used id

theorem mem_lookupCellId_of_mem {id : String} (h : id ∈ ids) {c : Char} (hc : c ∈ id.toList) :
    c ∈ (lookupCellId (cellIds ids) id).toList := by
  obtain ⟨used, heq⟩ := exists_lookupName_eq hnodup nodeCellId rootIds h
  rw [lookupCellId_cellIds, heq]
  exact mem_nodeCellId_of_mem used hc

/-- Nodes that have usable ids keep them. -/
theorem lookupCellId_of_free (hne : ∀ id ∈ ids, id ≠ "") (hnew : ∀ id ∈ ids, id ∉ rootIds)
    {id : String} (h : id ∈ ids) : lookupCellId (cellIds ids) id = id := by
  rw [lookupCellId_cellIds]
  exact lookupName_of_fixed hnodup hnew
    (fun i hi used hused => nodeCellId_of_free (hne i hi) hused) h

end Nodes

/-! ## The ids of all edges -/

theorem length_assignEdgeIds (used : List String) (index : Nat) (ids : List String) :
    (assignEdgeIds used index ids).length = ids.length := by
  induction ids generalizing used index with
  | nil => rfl
  | cons id ids ih => rw [assignEdgeIds, List.length_cons, ih, List.length_cons]

/-- Every id of an edge was given in view of the ids in use. -/
theorem exists_of_mem_assignEdgeIds {used ids : List String} {index : Nat} {s : String}
    (h : s ∈ assignEdgeIds used index ids) :
    ∃ used' index', ∃ id ∈ ids, used ⊆ used' ∧ s = edgeCellId used' index' id := by
  induction ids generalizing used index with
  | nil => exact absurd h (by simp [assignEdgeIds])
  | cons id ids ih =>
      rw [assignEdgeIds, List.mem_cons] at h
      rcases h with rfl | h
      · exact ⟨used, index, id, List.mem_cons_self, List.Subset.refl used, rfl⟩
      · obtain ⟨used', index', i, hi, hused, heq⟩ := ih h
        exact ⟨used', index', i, List.mem_cons_of_mem id hi,
          List.Subset.trans (List.subset_cons_self _ used) hused, heq⟩

theorem not_mem_of_mem_assignEdgeIds {used ids : List String} {index : Nat} {s : String}
    (h : s ∈ assignEdgeIds used index ids) : s ∉ used := by
  obtain ⟨used', index', id, -, hused, rfl⟩ := exists_of_mem_assignEdgeIds h
  exact fun hmem => edgeCellId_not_mem used' index' id (hused hmem)

theorem nodup_assignEdgeIds (used : List String) (index : Nat) (ids : List String) :
    (assignEdgeIds used index ids).Nodup := by
  induction ids generalizing used index with
  | nil => exact List.nodup_nil
  | cons id ids ih =>
      rw [assignEdgeIds, List.nodup_cons]
      exact ⟨fun hmem => not_mem_of_mem_assignEdgeIds hmem (by simp), ih _ _⟩

theorem exists_isMadeOf_of_mem_assignEdgeIds {used ids : List String} {index : Nat} {s : String}
    (h : s ∈ assignEdgeIds used index ids) : ∃ id ∈ ids, IsMadeOf id s := by
  obtain ⟨used', index', id, hid, -, rfl⟩ := exists_of_mem_assignEdgeIds h
  exact ⟨id, hid, isMadeOf_edgeCellId used' index' id⟩

end DiagramBridge.Drawio
