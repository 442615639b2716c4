import DiagramBridge.Proofs.Mermaid.RoundTrip

/-!
# What texts do to the nodes and edges of a flowchart

A flowchart is read back with the nodes and the edges it was written from, whatever its texts are,
as long as each line is cut where it was put together. Three things stand against that, each on
lines of one kind: a bar in the label of an edge, an arrow token in the text of a node, and a
Mermaid id that gives a line another meaning. Quotes around a label help against none of them.
-/

namespace DiagramBridge.Mermaid

open Text

/-- A chart with the nodes of a graph, in order and under their Mermaid ids, and with its valid
edges in order between them. -/
structure HasTopologyOf (chart g : Graph) : Prop where
  nodeIds : chart.nodeIds = g.nodeIds.map (idOf g)
  ends : chart.edges.map (fun e => (e.source, e.target)) =
    g.validEdges.map fun e => (idOf g e.source, idOf g e.target)

/-- A flowchart of plain lines comes back with its nodes and edges, whatever is read of its
labels. -/
theorem read_write_of_hasPlainLines {g : Graph} (hne : g.nodes ≠ []) (h : Flowchart.HasPlainLines g)
    (direction : Direction) :
    ∃ chart, read (write g .flowchart direction) = .ok ⟨.flowchart, chart⟩ ∧
      HasTopologyOf chart g ∧ chart.edges = g.validEdges.mapIdx (Flowchart.shownEdge (idOf g)) := by
  obtain ⟨hnodes, hedges⟩ := Flowchart.read_body_of_hasPlainLines h
  have hids : (Flowchart.read (Flowchart.body g)).nodeIds = g.nodeIds.map (idOf g) := by
    rw [Graph.nodeIds, hnodes, Graph.nodeIds, List.map_map, List.map_map]
    rfl
  have hends : (Flowchart.read (Flowchart.body g)).edges.map (fun e => (e.source, e.target)) =
      g.validEdges.map fun e => (idOf g e.source, idOf g e.target) := by
    rw [hedges]
    exact map_mapIdx_eq (fun _ _ => rfl) _
  refine ⟨_, read_write_of_nodes ?_ direction, ⟨hids, hends⟩, hedges⟩
  rw [hnodes]
  simpa using hne

theorem not_topology_of_nodeIds {g : Graph}
    (hnodes : (Flowchart.read (Flowchart.body g)).nodes ≠ [])
    (hids : (Flowchart.read (Flowchart.body g)).nodeIds ≠ g.nodeIds.map (idOf g))
    (direction : Direction) :
    ¬ ∃ chart, read (write g .flowchart direction) = .ok ⟨.flowchart, chart⟩ ∧
      HasTopologyOf chart g := by
  rintro ⟨chart, hread, htopology⟩
  rw [read_write_of_nodes hnodes direction] at hread
  obtain rfl := (Diagram.mk.inj (Except.ok.inj hread)).2
  exact hids htopology.nodeIds

/-! ## Edge labels -/

/-- **Edge labels.** Whatever the labels of the edges are, the flowchart comes back with its nodes
and edges and each line of an edge is one step, unless a label has a bar in it. -/
theorem topology_of_edgeLabels {g : Graph} (hne : g.nodes ≠ []) (hids : Flowchart.HasOrdinaryIds g)
    (harrow : ∀ n ∈ g.nodes, Flowchart.IsArrowFree (nodeLabel n)) (direction : Direction) :
    ((∃ chart, read (write g .flowchart direction) = .ok ⟨.flowchart, chart⟩ ∧
        HasTopologyOf chart g) ∧
      ∀ e ∈ g.validEdges, Flowchart.IsOneStep (idOf g e.source) (idOf g e.target) e) ↔
        ∀ e ∈ g.validEdges, '|' ∉ e.label.toList := by
  have hstep : ∀ e ∈ g.validEdges,
      (Flowchart.IsOneStep (idOf g e.source) (idOf g e.target) e ↔ '|' ∉ e.label.toList) := by
    intro e he
    obtain ⟨-, hsource, htarget⟩ := Graph.mem_validEdges.1 he
    exact Flowchart.isOneStep_iff (fun c => isWord_of_mem_idOf hsource)
      fun c => isWord_of_mem_idOf htarget
  constructor
  · exact fun h e he => (hstep e he).1 (h.2 e he)
  · intro hbar
    obtain ⟨chart, hread, htopology, -⟩ :=
      read_write_of_hasPlainLines hne ⟨hids, harrow, hbar⟩ direction
    exact ⟨⟨chart, hread, htopology⟩, fun e he => (hstep e he).2 (hbar e he)⟩

/-- Labels with arrows, brackets, quotes and line breaks. -/
def gateGraph : Graph where
  nodes := [{ id := "A", label := "Start" }, { id := "B", label := "Stop" }]
  edges :=
    [{ id := "", source := "A", target := "B", label := "a --> B[\"x\"]\n==> A" },
     { id := "", source := "B", target := "A", label := "-- no -->", lineStyle := .dashed },
     { id := "", source := "A", target := "C", label := "yes|no" }]
  subgraphs := []
  settled := []
  nodup := by decide

theorem topology_of_edgeLabels_gateGraph :
    (∃ chart, read (write gateGraph .flowchart .td) = .ok ⟨.flowchart, chart⟩ ∧
        HasTopologyOf chart gateGraph) ∧
      ∀ e ∈ gateGraph.validEdges,
        Flowchart.IsOneStep (idOf gateGraph e.source) (idOf gateGraph e.target) e :=
  (topology_of_edgeLabels (by decide) ⟨by decide +kernel, by decide⟩ (by decide +kernel)
    .td).2 (by decide +kernel)

/-- An edge whose label has a bar in it. -/
def barGraph : Graph where
  nodes := [{ id := "A", label := "Start" }, { id := "B", label := "Stop" }]
  edges := [{ id := "", source := "A", target := "B", label := "yes|no" }]
  subgraphs := []
  settled := []
  nodup := by decide

/-- What follows the bar is read as a node of its own, and the edge goes there. -/
theorem not_topology_barGraph :
    barGraph.nodes ≠ [] ∧ (∀ n ∈ barGraph.nodes, ∀ c ∈ nodeLabel n, isWord c = true) ∧
      Flowchart.HasOrdinaryIds barGraph ∧
        ¬ ∃ chart, read (write barGraph .flowchart .td) = .ok ⟨.flowchart, chart⟩ ∧
          HasTopologyOf chart barGraph := by
  have hids : (Flowchart.read (Flowchart.body barGraph)).nodeIds = ["A", "B", "no"] := by
    decide +kernel
  refine ⟨by decide, by decide +kernel, ⟨by decide +kernel, by decide +kernel⟩, ?_⟩
  refine not_topology_of_nodeIds (by decide +kernel) ?_ .td
  rw [hids]
  decide +kernel

/-! ## Node labels -/

/-- **Node labels.** Whatever the labels of the nodes are, the flowchart of a graph without edges
comes back with its nodes and without edges and no line of a node has a step in it, unless an arrow
token stands in a label. -/
theorem topology_of_nodeLabels {g : Graph} (hne : g.nodes ≠ []) (hids : Flowchart.HasOrdinaryIds g)
    (hedges : g.validEdges = []) (direction : Direction) :
    ((∃ chart, read (write g .flowchart direction) = .ok ⟨.flowchart, chart⟩ ∧
        chart.nodeIds = g.nodeIds.map (idOf g) ∧ chart.edges = []) ∧
      ∀ n ∈ g.nodes,
        (Flowchart.Chain.ofLine (Flowchart.nodeStatement (idOf g n.id) n)).hops = []) ↔
        ∀ n ∈ g.nodes, Flowchart.IsArrowFree (nodeLabel n) := by
  have hhops : ∀ n ∈ g.nodes,
      ((Flowchart.Chain.ofLine (Flowchart.nodeStatement (idOf g n.id) n)).hops = [] ↔
        Flowchart.IsArrowFree (nodeLabel n)) := by
    intro n hn
    rw [Flowchart.hops_ofLine_eq_nil_iff]
    exact Flowchart.isArrowFree_nodeStatement_iff
      fun c => isWord_of_mem_idOf (List.mem_map_of_mem hn)
  constructor
  · exact fun h n hn => (hhops n hn).1 (h.2 n hn)
  · intro harrow
    obtain ⟨chart, hread, htopology, hchart⟩ :=
      read_write_of_hasPlainLines hne ⟨hids, harrow, by simp [hedges]⟩ direction
    rw [hedges] at hchart
    exact ⟨⟨chart, hread, htopology.nodeIds, hchart⟩, fun n hn => (hhops n hn).2 (harrow n hn)⟩

/-- Labels with bars, brackets, quotes and line breaks, and a class with members. -/
def hatchGraph : Graph where
  nodes :=
    [{ id := "A", label := "a | b] \"c\"" }, { id := "B", label := "/x/" },
     { id := "C", label := "Hatch", shape := .classBox, kind := .classLike,
       members := ["-- open() --"] },
     { id := "D d", label := "" }]
  edges := []
  subgraphs := []
  settled := []
  nodup := by decide

theorem topology_of_nodeLabels_hatchGraph :
    (∃ chart, read (write hatchGraph .flowchart .td) = .ok ⟨.flowchart, chart⟩ ∧
        chart.nodeIds = hatchGraph.nodeIds.map (idOf hatchGraph) ∧ chart.edges = []) ∧
      ∀ n ∈ hatchGraph.nodes, (Flowchart.Chain.ofLine
        (Flowchart.nodeStatement (idOf hatchGraph n.id) n)).hops = [] :=
  (topology_of_nodeLabels (by decide) ⟨by decide +kernel, by decide⟩ (by decide)
    .td).2 (by decide +kernel)

/-- A node whose label has an arrow in it. -/
def arrowGraph : Graph where
  nodes := [{ id := "A", label := "x --> y" }]
  edges := []
  subgraphs := []
  settled := []
  nodup := by decide

/-- The text on both sides of the arrow is read as two nodes with an edge between them. -/
theorem not_topology_arrowGraph :
    arrowGraph.nodes ≠ [] ∧ arrowGraph.edges = [] ∧ Flowchart.HasOrdinaryIds arrowGraph ∧
      ¬ ∃ chart, read (write arrowGraph .flowchart .td) = .ok ⟨.flowchart, chart⟩ ∧
        HasTopologyOf chart arrowGraph := by
  have hids : (Flowchart.read (Flowchart.body arrowGraph)).nodeIds = ["A", "y"] := by
    decide +kernel
  refine ⟨by decide, rfl, ⟨by decide +kernel, by decide +kernel⟩, ?_⟩
  refine not_topology_of_nodeIds (by decide +kernel) ?_ .td
  rw [hids]
  decide

/-! ## Ids -/

/-- **Ids.** Whatever the ids of the nodes are, the flowchart of plain labels comes back with its
nodes and edges and each of its lines is read as a chain, unless a Mermaid id begins with the word
that opens a subgraph, or an edge starts from the one word about looks that is left as it is. -/
theorem topology_of_ids {g : Graph} (hne : g.nodes ≠ [])
    (harrow : ∀ n ∈ g.nodes, Flowchart.IsArrowFree (nodeLabel n))
    (htrim : ∀ e ∈ g.validEdges, IsTrimmed (encode e.label.toList))
    (hbar : ∀ e ∈ g.validEdges, '|' ∉ e.label.toList) (direction : Direction) :
    ((∃ chart, read (write g .flowchart direction) = .ok ⟨.flowchart, chart⟩ ∧
        chart.nodeIds = g.nodeIds.map (idOf g) ∧
          chart.edges = g.validEdges.mapIdx (Flowchart.edgeOfText (idOf g))) ∧
      ∀ line ∈ (statements (write g .flowchart direction).toList).tail,
        Flowchart.IsChainLine line) ↔ Flowchart.HasOrdinaryIds g := by
  have hlines : (∀ line ∈ (statements (write g .flowchart direction).toList).tail,
      Flowchart.IsChainLine line) ↔ Flowchart.HasOrdinaryIds g := by
    rw [statements_write_flowchart, List.tail_cons, Flowchart.body, Flowchart.hasOrdinaryIds_iff,
      List.forall_mem_append, List.forall_mem_map, List.forall_mem_map]
  -- The lines alone decide about the ids, and ordinary ids make the lines plain.
  rw [hlines, and_iff_right_iff_imp]
  intro hids
  obtain ⟨chart, hread, htopology, hedges⟩ :=
    read_write_of_hasPlainLines hne ⟨hids, harrow, hbar⟩ direction
  rw [Flowchart.mapIdx_shownEdge htrim] at hedges
  exact ⟨chart, hread, htopology.nodeIds, hedges⟩

/-- Ids that are words of statements, begin with a digit or have to be told apart. -/
def keywordGraph : Graph where
  nodes :=
    [{ id := "end", label := "Last" }, { id := "1st", label := "First" },
     { id := "click", label := "Press" }, { id := "click_node", label := "Push" },
     { id := "linkStyle", label := "Look" }]
  edges :=
    [{ id := "", source := "1st", target := "click", label := "then" },
     { id := "", source := "click", target := "linkStyle", label := "" },
     { id := "", source := "click_node", target := "end", label := "last", lineStyle := .thick }]
  subgraphs := []
  settled := []
  nodup := by decide

theorem topology_of_ids_keywordGraph :
    (∃ chart, read (write keywordGraph .flowchart .td) = .ok ⟨.flowchart, chart⟩ ∧
        chart.nodeIds = keywordGraph.nodeIds.map (idOf keywordGraph) ∧
          chart.edges = keywordGraph.validEdges.mapIdx
            (Flowchart.edgeOfText (idOf keywordGraph))) ∧
      ∀ line ∈ (statements (write keywordGraph .flowchart .td).toList).tail,
        Flowchart.IsChainLine line :=
  (topology_of_ids (by decide) (by decide +kernel) (by decide +kernel) (by decide) .td).2
    ⟨by decide +kernel, by decide +kernel⟩

/-- A node under the word that opens a subgraph. -/
def openingGraph : Graph where
  nodes := [{ id := "subgraph", label := "Plan" }, { id := "B", label := "Stop" }]
  edges := [{ id := "", source := "subgraph", target := "B", label := "then" }]
  subgraphs := []
  settled := []
  nodup := by decide

/-- The word with a suffix opens a subgraph too, so the node and its edge are lost. -/
theorem not_topology_openingGraph :
    openingGraph.nodes ≠ [] ∧
      (∀ n ∈ openingGraph.nodes, ∀ c ∈ nodeLabel n, isWord c = true) ∧
        (∀ e ∈ openingGraph.edges, ∀ c ∈ e.label.toList, isWord c = true) ∧
          ¬ ∃ chart, read (write openingGraph .flowchart .td) = .ok ⟨.flowchart, chart⟩ ∧
            HasTopologyOf chart openingGraph := by
  have hids : (Flowchart.read (Flowchart.body openingGraph)).nodeIds = ["B"] := by
    decide +kernel
  refine ⟨by decide, by decide +kernel, by decide, ?_⟩
  refine not_topology_of_nodeIds (by decide +kernel) ?_ .td
  rw [hids]
  decide +kernel

end DiagramBridge.Mermaid
