import DiagramBridge.Proofs.Drawio.Roles

/-!
# What comes back from a written graph

A graph that is written as cells and extracted again has the same nodes in the same order, under the
ids of their cells and with normal labels. A class with members keeps them as far as they are texts;
any other node is a plain node, drawn in its shape. The edges are the valid ones, and a relation
comes back as the line and the arrowhead it was drawn with.
-/

namespace DiagramBridge

/-- A node without its box. -/
def Node.unplaced (n : Node) : Node :=
  { n with geometry := none }

namespace Drawio

open Text

/-- The node that comes back for a node, without its box. -/
def returnedNode (cellId : String) (n : Node) : Node :=
  if HasRows n then
    { id := cellId
      label := normalLabel n.label
      shape := .classBox
      kind := .classLike
      members := returnedMembers n
      style := vertexStyle n.shape }
  else
    { id := cellId
      label := normalLabel n.label
      shape := n.shape.drawn
      style := vertexStyle n.shape }

/-- The edge that comes back for an edge. -/
def returnedEdge (cellId source target : String) (e : Edge) : Edge where
  id := cellId
  source := source
  target := target
  label := normalLabel e.label
  lineStyle := (e.relation.map Relation.lineStyle).getD e.lineStyle
  arrowEnd := e.relation.isSome || e.arrowEnd
  style := edgeStyle e.lineStyle e.arrowEnd e.relation

/-- The edges that come back for the valid edges of a graph. -/
def returnedEdges (g : Graph) : List Edge :=
  (g.validEdges.zip (edgeCellIds g)).map fun (e, cellId) =>
    returnedEdge cellId (cellIdOf g e.source) (cellIdOf g e.target) e

theorem filterMap_eq_nil_of_forall {α β : Type} {f : α → Option β} {l : List α}
    (h : ∀ a ∈ l, f a = none) : l.filterMap f = [] :=
  List.filterMap_eq_nil_iff.2 h

theorem filterMap_eq_map_of_forall {α β : Type} {f : α → Option β} {h : α → β} {l : List α}
    (hf : ∀ a ∈ l, f a = some (h a)) : l.filterMap f = l.map h := by
  induction l with
  | nil => rfl
  | cons a l ih =>
      rw [List.filterMap_cons_some (hf a (by simp)), List.map_cons,
        ih fun b hb => hf b (by simp [hb])]

theorem roleOf_ne_edgeLabel {g : Graph} {c : Cell} (hc : c ∈ readings g) :
    roleOf (readings g) c ≠ .edgeLabel := by
  rw [roleOf, isEdgeLabel_eq_false hc]
  split
  · simp
  · split
    · simp
    · simp only [Bool.false_eq_true, if_false]
      split
      · simp
      · split <;> simp

/-- The label of a written edge is its own text. -/
theorem foldedLabel_readings (g : Graph) (c : Cell) :
    foldedLabel (readings g) c = cleanString c.value := by
  have hnone : (readings g).filter (fun d =>
      roleOf (readings g) d = .edgeLabel && d.parent == some c.id) = [] := by
    refine List.filter_eq_nil_iff.2 fun d hd => ?_
    simp [roleOf_ne_edgeLabel hd]
  have htexts : labelTexts (readings g) c.id = [] := by
    rw [labelTexts, hnone]
    rfl
  rw [foldedLabel, htexts]
  by_cases hempty : cleanString c.value = ""
  · rw [hempty]
    rfl
  · rw [List.filter_cons_of_pos (by simpa using hempty), List.filter_nil]
    simp

variable {g : Graph}

section Extracted

variable (hown : HasOwnMemberIds g)
include hown

theorem nodeOf?_titleReading (hclasses : HasReadableClasses g) {n : Node} (hn : n ∈ g.nodes) :
    (nodeOf? (readings g) (titleReading (cellIdOf g n.id) n)).map Node.unplaced =
      some (returnedNode (cellIdOf g n.id) n) := by
  have hlabel : cleanString (titleReading (cellIdOf g n.id) n).value = normalLabel n.label :=
    cleanString_cellValueString n.label
  have hshape : shapeOf (titleReading (cellIdOf g n.id) n).style = n.shape.drawn :=
    shapeOf_vertexStyle n.shape
  rw [nodeOf?, roleOf_titleReading hown hclasses hn, returnedNode]
  by_cases hrows : HasRows n
  · rw [if_pos hrows, if_pos hrows]
    rfl
  · rw [if_neg hrows, if_neg hrows]
    simp only [hlabel, hshape]
    rfl

theorem nodeOf?_rowReading (hclasses : HasReadableClasses g) {n : Node} (hn : n ∈ g.nodes)
    {c : Cell} (hc : c ∈ rowReadings (cellIdOf g n.id) n) : nodeOf? (readings g) c = none := by
  rw [nodeOf?, roleOf_rowReading hown hclasses hn hc]

/-- The nodes that come back. -/
theorem nodes_extract_readings (hclasses : HasReadableClasses g) :
    (extract (readings g)).nodes.map Node.unplaced =
      g.nodes.map fun n => returnedNode (cellIdOf g n.id) n := by
  have hroots : rootReadings.filterMap (nodeOf? (readings g)) = [] :=
    filterMap_eq_nil_of_forall fun c hc => by rw [nodeOf?, roleOf_rootReading hown hc]
  have hedges : (edgeReadings g).filterMap (nodeOf? (readings g)) = [] :=
    filterMap_eq_nil_of_forall fun c hc => by rw [nodeOf?, roleOf_edgeReading hown hc]
  have hnode : ∀ n ∈ g.nodes, ((titleReading (cellIdOf g n.id) n ::
      rowReadings (cellIdOf g n.id) n).filterMap (nodeOf? (readings g))).map Node.unplaced =
        [returnedNode (cellIdOf g n.id) n] := by
    intro n hn
    have htitle := nodeOf?_titleReading hown hclasses hn
    obtain ⟨m, hm, heq⟩ := Option.map_eq_some_iff.1 htitle
    rw [List.filterMap_cons_some hm, List.map_cons, heq,
      filterMap_eq_nil_of_forall fun c hc => nodeOf?_rowReading hown hclasses hn hc]
    rfl
  rw [nodes_extract (nodup_map_id_readings hown), readings, List.filterMap_append,
    List.filterMap_append, ← readings, hroots, hedges, List.nil_append, List.append_nil,
    nodeReadings, List.filterMap_flatMap, List.map_flatMap, List.flatMap_congr hnode]
  exact List.map_eq_flatMap.symm

/-- The edges that come back. -/
theorem edges_extract_readings (hclasses : HasReadableClasses g) :
    (extract (readings g)).edges = returnedEdges g := by
  have hroots : rootReadings.filterMap (edgeOf? (readings g)) = [] :=
    filterMap_eq_nil_of_forall fun c hc => by rw [edgeOf?, roleOf_rootReading hown hc]
  have hnodes : (nodeReadings g).filterMap (edgeOf? (readings g)) = [] := by
    refine filterMap_eq_nil_of_forall fun c hc => ?_
    obtain ⟨n, hn, hc⟩ := List.mem_flatMap.1 hc
    rcases List.mem_cons.1 hc with rfl | hc
    · rw [edgeOf?, roleOf_titleReading hown hclasses hn]
      by_cases hrows : HasRows n
      · rw [if_pos hrows]
      · rw [if_neg hrows]
    · rw [edgeOf?, roleOf_rowReading hown hclasses hn hc]
  have hedge : ∀ p ∈ g.validEdges.zip (edgeCellIds g),
      edgeOf? (readings g) (connectingCell p.2 (cellIdOf g p.1.source) (cellIdOf g p.1.target) p.1) =
        some (returnedEdge p.2 (cellIdOf g p.1.source) (cellIdOf g p.1.target) p.1) := by
    intro p hp
    have hmem : connectingCell p.2 (cellIdOf g p.1.source) (cellIdOf g p.1.target) p.1 ∈
        edgeReadings g := List.mem_map.2 ⟨p, hp, rfl⟩
    rw [edgeOf?, roleOf_edgeReading hown hmem]
    simp only [foldedLabel_readings, connectingCell, cleanString_cellValueString,
      lineStyleOf_edgeStyle, hasEndArrow_edgeStyle, Option.getD_some, returnedEdge]
  rw [edges_extract fun c hc => id_ne_empty_of_mem_readings hc, readings, List.filterMap_append,
    List.filterMap_append, ← readings, hroots, hnodes, List.nil_append, List.nil_append, edgeReadings, List.filterMap_map]
  exact filterMap_eq_map_of_forall hedge

end Extracted

end Drawio

end DiagramBridge
