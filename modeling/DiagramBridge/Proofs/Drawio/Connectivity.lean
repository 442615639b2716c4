import DiagramBridge.Proofs.Drawio.Conservation

/-!
# What becomes of connections

Every cell of an edge is an edge of the graph, between the ends that it names. The edge is valid if
both ends are nodes, and a visible cell that is neither a layer nor the label of an edge is a node
unless it is merged into a class. So a connection is lost exactly when one of its ends is a row of a
class: the class is there, but the edge still names the row.
-/

namespace DiagramBridge.Drawio

/-- A visible cell that an edge can end at: it is neither a layer nor the label of an edge. -/
structure IsEndpoint (cells : List Cell) (c : Cell) : Prop where
  mem : c ∈ cells
  vertex : c.isVertex = true
  layer : c.parent ≠ some "0"
  label : isEdgeLabel cells c = false

/-- A cell that connects one cell to another one. -/
structure Connects (cells : List Cell) (c source target : Cell) : Prop where
  mem : c ∈ cells
  edge : c.isEdge = true
  source : c.source = some source.id
  target : c.target = some target.id

section

variable {cells : List Cell} (hids : HasOwnIds cells)
include hids

/-- Of the cells that an edge can end at, all are nodes but those that are merged. -/
theorem IsEndpoint.mem_nodeIds_iff {c : Cell} (h : IsEndpoint cells c) :
    c.id ∈ (extract cells).nodeIds ↔ isConsumed cells c.id = false := by
  have hnode : c.id ∈ (extract cells).nodeIds ↔ IsNode cells c := by
    rw [Graph.nodeIds, List.mem_map, IsNode]
  rw [hnode, isNode_iff_fateOf? hids h.mem, roleOf]
  cases hconsumed : isConsumed cells c.id with
  | true => simp [fateOf?]
  | false =>
      rw [h.label, h.vertex]
      cases groupById? cells c.id <;> simp [fateOf?, h.layer]

/-- The edges of the graph that go by the id of a connecting cell name the cells it connects. -/
theorem Connects.ends_eq {c s t : Cell} (h : Connects cells c s t) {e : Edge}
    (he : e ∈ (extract cells).edges) (hid : e.id = c.id) : e.source = s.id ∧ e.target = t.id := by
  rw [edges_extract hids.nonempty] at he
  obtain ⟨d, hd, hedge⟩ := List.mem_filterMap.1 he
  rw [edgeOf?] at hedge
  split at hedge <;> simp only [Option.some.injEq, reduceCtorEq] at hedge
  subst hedge
  obtain rfl := eq_of_id_eq hids.nodup h.mem hd hid
  exact ⟨congrArg (Option.getD · "") h.source, congrArg (Option.getD · "") h.target⟩

/-- A connecting cell is an edge of the graph. -/
theorem Connects.exists_edge {c s t : Cell} (h : Connects cells c s t)
    (hkinds : ∀ d ∈ cells, ¬ (d.isVertex = true ∧ d.isEdge = true)) :
    ∃ e ∈ (extract cells).edges, e.id = c.id := by
  have hvertex : c.isVertex = false := by
    rw [← Bool.not_eq_true]
    exact fun hv => hkinds c h.mem ⟨hv, h.edge⟩
  obtain ⟨e, he, hid, -⟩ := exists_edgeOf? (roleOf_eq_edge hids.nodup h.mem h.edge hvertex)
  rw [edges_extract hids.nonempty]
  exact ⟨e, List.mem_filterMap.2 ⟨c, h.mem, he⟩, hid⟩

end

/-- A connection between two visible cells, neither of them a layer or the label of an edge, is a
valid edge of the graph if neither of them is merged into a class, and only then. The edge keeps the
id and the ends of the connection in any case. -/
theorem connected_iff_of_connects {cells : List Cell} (hids : HasOwnIds cells)
    (hkinds : ∀ d ∈ cells, ¬ (d.isVertex = true ∧ d.isEdge = true)) {c s t : Cell}
    (h : Connects cells c s t) (hs : IsEndpoint cells s) (ht : IsEndpoint cells t) :
    ((∃ e ∈ (extract cells).validEdges, e.id = c.id) ↔
      isConsumed cells s.id = false ∧ isConsumed cells t.id = false) ∧
    (∃ e ∈ (extract cells).edges, e.id = c.id) ∧
    ∀ e ∈ (extract cells).edges, e.id = c.id → e.source = s.id ∧ e.target = t.id := by
  refine ⟨?_, h.exists_edge hids hkinds, fun e he hid => h.ends_eq hids he hid⟩
  rw [← hs.mem_nodeIds_iff hids, ← ht.mem_nodeIds_iff hids]
  constructor
  · rintro ⟨e, he, hid⟩
    obtain ⟨hmem, hsource, htarget⟩ := Graph.mem_validEdges.1 he
    obtain ⟨hs', ht'⟩ := h.ends_eq hids hmem hid
    rw [← hs', ← ht']
    exact ⟨hsource, htarget⟩
  · rintro ⟨hsource, htarget⟩
    obtain ⟨e, he, hid⟩ := h.exists_edge hids hkinds
    obtain ⟨hs', ht'⟩ := h.ends_eq hids he hid
    rw [← hs'] at hsource
    rw [← ht'] at htarget
    exact ⟨e, Graph.mem_validEdges.2 ⟨he, hsource, htarget⟩, hid⟩

/-- The class is connected to the box. -/
theorem connected_iff_of_connects_stackPage :
    HasOwnIds stackPage ∧ (∀ c ∈ stackPage, ¬ (c.isVertex = true ∧ c.isEdge = true)) ∧
      (∃ e ∈ (extract stackPage).validEdges, e.id = "link") ∧
      ∀ e ∈ (extract stackPage).edges, e.id = "link" → e.source = "stack" ∧ e.target = "log" := by
  let link : Cell :=
    { blankCell "link" "1" with isEdge := true, source := some "stack", target := some "log" }
  let stack := rowCell "stack" "1" "Stack" (.ofInt 0)
  let log := rowCell "log" "1" "Log" (.ofInt 0)
  have hids : HasOwnIds stackPage := ⟨by decide, by decide⟩
  have hkinds : ∀ c ∈ stackPage, ¬ (c.isVertex = true ∧ c.isEdge = true) := by decide
  have hlink : Connects stackPage link stack log := ⟨by decide, rfl, rfl, rfl⟩
  have hstack : IsEndpoint stackPage stack := ⟨by decide, rfl, by decide, by decide⟩
  have hlog : IsEndpoint stackPage log := ⟨by decide, rfl, by decide, by decide⟩
  obtain ⟨hvalid, -, hends⟩ := connected_iff_of_connects hids hkinds hlink hstack hlog
  exact ⟨hids, hkinds, hvalid.2 ⟨by decide, by decide⟩, hends⟩

/-- A class with one row, a box, and a connection from the row to the box. -/
def rowLinkPage : List Cell :=
  [rowCell "p" "1" "P" (.ofInt 0), rowCell "a" "p" "one" (.ofInt 30),
   rowCell "b" "1" "B" (.ofInt 0),
   { blankCell "e" "1" with isEdge := true, source := some "a", target := some "b" }]

/-- The connection of a row is lost. -/
theorem not_connected_rowLinkPage :
    HasOwnIds rowLinkPage ∧ (∀ c ∈ rowLinkPage, ¬ (c.isVertex = true ∧ c.isEdge = true)) ∧
      (∃ c s t, Connects rowLinkPage c s t ∧ IsEndpoint rowLinkPage s ∧
        IsEndpoint rowLinkPage t ∧ ¬ ∃ e ∈ (extract rowLinkPage).validEdges, e.id = c.id) := by
  let link : Cell :=
    { blankCell "e" "1" with isEdge := true, source := some "a", target := some "b" }
  let row := rowCell "a" "p" "one" (.ofInt 30)
  let box := rowCell "b" "1" "B" (.ofInt 0)
  have hnone : (extract rowLinkPage).validEdges = [] := by decide +kernel
  refine ⟨⟨by decide, by decide⟩, by decide, link, row, box, ⟨by decide, rfl, rfl, rfl⟩,
    ⟨by decide, rfl, by decide, by decide⟩,
    ⟨by decide, rfl, by decide, by decide⟩, ?_⟩
  rw [hnone]
  simp

end DiagramBridge.Drawio
