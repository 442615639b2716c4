import DiagramBridge.Proofs.Conversion.Pipeline
import DiagramBridge.Proofs.Conversion.SafeIds
import DiagramBridge.Proofs.Mermaid.RoundTrip

/-!
# Flowcharts through a drawing and back

A flowchart that is read, drawn, read from its drawing, written and read again is the same flowchart
as before. Its nodes are plain nodes in shapes that have brackets, so the drawing keeps them; and its
labels have no arrows in them because they come from a flowchart, so the lines of the second text
are cut only where they should be.
-/

namespace DiagramBridge

open Drawio Mermaid Text Xml

/-- A flowchart that stays the same on its way: the ids can begin a line, and the labels are of one
line and as cleaning leaves them. -/
structure IsSteadyChart (g : Graph) : Prop where
  safe : HasSafeIds g
  notOpening : ∀ id ∈ g.nodeIds, ¬ "subgraph".toList <+: id.toList
  notLinkStyle : ∀ id ∈ g.nodeIds, id ≠ "linkStyle"
  labelled : ∀ n ∈ g.nodes, n.label ≠ ""
  nodeLabels : ∀ n ∈ g.nodes, IsNormalLine n.label.toList ∧ IsLegal n.label
  slashes : ∀ n ∈ g.nodes, n.shape = .rectangle → n.label.toList.any needsQuotes = false →
    ¬ (n.label.toList.head? = some '/' ∧ n.label.toList.getLast? = some '/')
  edgeLabels : ∀ e ∈ g.edges, IsNormalLine e.label.toList ∧ IsLegal e.label
  barred : ∀ e ∈ g.edges, '|' ∉ e.label.toList

/-- What a flowchart shows of a node. -/
def nodeContent (n : Node) : String × String × Shape :=
  (n.id, n.label, n.shape)

/-- What a flowchart shows of an edge. -/
def edgeContent (e : Edge) : String × String × String × LineStyle × Bool :=
  (e.source, e.target, e.label, e.lineStyle, e.arrowEnd)

theorem encode_of_isNormalLine {s : List Char} (h : IsNormalLine s) : encode s = s :=
  encode_of_plain h.lineFeed_not_mem h.noQuote

/-- What is written of a node does not depend on its box. -/
theorem hasPlainText_of_unplaced {n : Node} (h : Flowchart.HasPlainText n.unplaced) :
    Flowchart.HasPlainText n :=
  ⟨h.nonempty, h.trimmed, h.arrowFree, h.slashes⟩

section

variable {g : Graph} (hchart : Flowchart.IsChart g)
include hchart

theorem not_hasRows_of_isChart {n : Node} (hn : n ∈ g.nodes) : ¬ HasRows n := by
  rintro ⟨hkind, -⟩
  rw [(hchart.nodes n hn).kind] at hkind
  exact absurd hkind (by decide)

theorem hasReadableClasses_of_isChart : HasReadableClasses g :=
  ⟨fun _ hn hrows => absurd hrows (not_hasRows_of_isChart hchart hn),
    fun _ hn hrows => absurd hrows (not_hasRows_of_isChart hchart hn),
    fun _ hn hrows => absurd hrows (not_hasRows_of_isChart hchart hn)⟩

theorem hasOwnMemberIds_of_isChart (h : IsSteadyChart g) : HasOwnMemberIds g :=
  h.safe.hasOwnMemberIds fun e he => (hchart.edges e he).id

theorem hasLegalTexts_of_isChart (h : IsSteadyChart g) : HasLegalTexts g := by
  refine ⟨fun n hn => h.safe.isLegal (List.mem_map_of_mem hn), fun n hn => (h.nodeLabels n hn).2,
    fun n hn m hm => ?_, fun e he => isLegal_of_isWord (hchart.edges e he).id,
    fun e he => (h.edgeLabels e he).2⟩
  rw [(hchart.nodes n hn).members] at hm
  exact absurd hm List.not_mem_nil

/-- The drawing keeps a node of a flowchart. -/
theorem returnedNode_of_isChart (h : IsSteadyChart g) {n : Node} (hn : n ∈ g.nodes) :
    returnedNode n.id n =
      { id := n.id, label := n.label, shape := n.shape, style := vertexStyle n.shape } := by
  have hdrawn : ∀ shape ∈ Flowchart.bracketedShapes, shape.drawn = shape := by decide
  rw [returnedNode, if_neg (not_hasRows_of_isChart hchart hn),
    normalLabel_of_isNormalLine (h.nodeLabels n hn).1, hdrawn _ (hchart.nodes n hn).shape]

/-- A node that comes back can be written in a flowchart, and is read there as it was. -/
theorem hasPlainText_returnedNode (h : IsSteadyChart g) {n : Node} (hn : n ∈ g.nodes) :
    Flowchart.HasPlainText (returnedNode n.id n) ∧
      ∀ id, Flowchart.nodeOfText id (returnedNode n.id n) =
        { id, label := n.label, shape := n.shape } := by
  have hbracketed : ∀ shape ∈ Flowchart.bracketedShapes, Flowchart.bracketed shape = shape := by
    decide
  have hshape : Flowchart.bracketed n.shape = n.shape := hbracketed _ (hchart.nodes n hn).shape
  obtain ⟨hnormal, -⟩ := h.nodeLabels n hn
  have hlabel : nodeLabel (returnedNode n.id n) = n.label.toList := by
    have hclass : NodeKind.node ≠ .classLike := by decide
    rw [returnedNode_of_isChart hchart h hn, nodeLabel, if_neg fun hrows => hclass hrows.1,
      if_neg (h.labelled n hn)]
  have htext : encode (nodeLabel (returnedNode n.id n)) = n.label.toList := by
    rw [hlabel, encode_of_isNormalLine hnormal]
  constructor
  · refine ⟨?_, ?_, ?_, ?_⟩
    · rw [htext]
      simpa using h.labelled n hn
    · rw [htext]
      exact hnormal.isTrimmed
    · rw [htext]
      exact (hchart.nodes n hn).arrowFree
    · rw [htext, hlabel, returnedNode_of_isChart hchart h hn, hshape]
      exact h.slashes n hn
  · intro id
    rw [Flowchart.nodeOfText, htext, String.ofList_toList, returnedNode_of_isChart hchart h hn,
      hshape]

/-- What comes back from the drawing of a flowchart can be written as a flowchart. -/
theorem isPlainChart_returnedGraph (h : IsSteadyChart g) :
    Flowchart.IsPlainChart (returnedGraph g) := by
  have hclasses := hasReadableClasses_of_isChart hchart
  have hown := hasOwnMemberIds_of_isChart hchart h
  have hlabel : ∀ e ∈ g.validEdges, encode (normalLabel e.label).toList = e.label.toList := by
    intro e he
    obtain ⟨hnormal, -⟩ := h.edgeLabels e (Graph.mem_validEdges.1 he).1
    rw [normalLabel_of_isNormalLine hnormal, encode_of_isNormalLine hnormal]
  have hid : ∀ n ∈ (returnedGraph g).nodes, n.id ∈ g.nodeIds :=
    h.safe.forall_nodes_returnedGraph hclasses hown (fun _ hn => hn) fun n hn => by
      rw [id_returnedNode]
      exact List.mem_map_of_mem hn
  have hidOf : ∀ n ∈ (returnedGraph g).nodes, idOf (returnedGraph g) n.id = n.id :=
    fun n hn => h.safe.idOf_returnedGraph hclasses hown (List.mem_map_of_mem hn)
  refine ⟨?_, ?_, ?_, fun n hn => ?_, fun n hn => ?_⟩
  · exact h.safe.forall_nodes_returnedGraph hclasses hown (fun _ => hasPlainText_of_unplaced)
      fun n hn => (hasPlainText_returnedNode hchart h hn).1
  · refine h.safe.forall_validEdges_returnedGraph hclasses hown fun e he cellId => ?_
    change IsTrimmed (encode (normalLabel e.label).toList)
    rw [hlabel e he]
    exact (h.edgeLabels e (Graph.mem_validEdges.1 he).1).1.isTrimmed
  · refine h.safe.forall_validEdges_returnedGraph hclasses hown fun e he cellId => ?_
    change '|' ∉ encode (normalLabel e.label).toList
    rw [hlabel e he]
    exact h.barred e (Graph.mem_validEdges.1 he).1
  · rw [hidOf n hn]
    exact h.notOpening _ (hid n hn)
  · rw [hidOf n hn]
    exact h.notLinkStyle _ (hid n hn)

/-- The nodes of the second flowchart are those of the first. -/
theorem map_nodeContent_trip (h : IsSteadyChart g) :
    (Flowchart.read (Flowchart.body (returnedGraph g))).nodes.map nodeContent =
      g.nodes.map nodeContent := by
  have hclasses := hasReadableClasses_of_isChart hchart
  have hown := hasOwnMemberIds_of_isChart hchart h
  calc (Flowchart.read (Flowchart.body (returnedGraph g))).nodes.map nodeContent
      = (returnedGraph g).nodes.map fun n => nodeContent (Flowchart.nodeOfText n.id n) := by
        rw [(Flowchart.read_body (isPlainChart_returnedGraph hchart h)).1, List.map_map]
        refine List.map_congr_left fun n hn => ?_
        rw [Function.comp_apply,
          h.safe.idOf_returnedGraph hclasses hown (List.mem_map_of_mem hn)]
    _ = g.nodes.map fun n => nodeContent (Flowchart.nodeOfText n.id (returnedNode n.id n)) := by
        rw [h.safe.map_nodes_returnedGraph hclasses hown fun _ => rfl]
        refine List.map_congr_left fun n hn => ?_
        rw [id_returnedNode]
    _ = g.nodes.map nodeContent := by
        refine List.map_congr_left fun n hn => ?_
        rw [(hasPlainText_returnedNode hchart h hn).2]
        rfl

/-- The edges of the second flowchart are those of the first. -/
theorem map_edgeContent_trip (h : IsSteadyChart g) :
    (Flowchart.read (Flowchart.body (returnedGraph g))).edges.map edgeContent =
      g.edges.map edgeContent := by
  calc (Flowchart.read (Flowchart.body (returnedGraph g))).edges.map edgeContent
      = (returnedGraph g).validEdges.map
          fun e => edgeContent (Flowchart.edgeOfText (idOf (returnedGraph g)) 0 e) := by
        rw [(Flowchart.read_body (isPlainChart_returnedGraph hchart h)).2]
        exact map_mapIdx_eq (fun _ _ => rfl) _
    _ = g.validEdges.map fun e =>
          edgeContent (Flowchart.edgeOfText id 0 (returnedEdge "" e.source e.target e)) := by
        refine h.safe.map_validEdges_returnedGraph (hasReadableClasses_of_isChart hchart)
          (hasOwnMemberIds_of_isChart hchart h)
          (f := fun ids e => edgeContent (Flowchart.edgeOfText ids 0 e))
          (fun _ _ _ _ => rfl) fun ids e hsource htarget => ?_
        simp only [edgeContent, Flowchart.edgeOfText, hsource, htarget, id_eq]
    _ = g.edges.map edgeContent := by
        rw [hchart.validEdges_eq]
        refine List.map_congr_left fun e he => ?_
        obtain ⟨hnormal, -⟩ := h.edgeLabels e he
        simp only [edgeContent, Flowchart.edgeOfText, returnedEdge, id_eq,
          normalLabel_of_isNormalLine hnormal, encode_of_isNormalLine hnormal,
          String.ofList_toList, (hchart.edges e he).relation, Option.map_none, Option.getD_none,
          Option.isSome_none, Bool.false_or]

end

/-- **Round trip.** A flowchart is drawn, and the flowchart that is made of the drawing has the same
nodes and edges again. That labels are free of arrows is not asked for: labels that were read are. -/
theorem flowchart_trip {text : String} {d : Diagram} (hread : Mermaid.read text = .ok d)
    (htype : d.type = .flowchart) (h : IsSteadyChart d.graph) :
    ∃ drawing m back, (toDrawing text false).result = .ok drawing ∧
      (toMermaid drawing {} 0).result = .ok m ∧ Mermaid.read m.mermaid = .ok back ∧
        back.graph.nodes.map nodeContent = d.graph.nodes.map nodeContent ∧
          back.graph.edges.map edgeContent = d.graph.edges.map edgeContent := by
  obtain ⟨body, -, hbody, hne⟩ := exists_readBody_of_read hread
  have hchart : Flowchart.IsChart d.graph := by
    rw [hbody, htype]
    exact Flowchart.isChart_read body
  have hclasses := hasReadableClasses_of_isChart hchart
  have hown := hasOwnMemberIds_of_isChart hchart h
  obtain ⟨count, hdrawing⟩ :=
    result_read_write hne (hasLegalTexts_of_isChart hchart h) hclasses hown
  have hreturned := nodes_returnedGraph_ne_nil hne hclasses hown
  exact ⟨_, _, _, result_toDrawing hread false, result_toMermaid hdrawing {},
    read_write_of_flowchart hreturned (isPlainChart_returnedGraph hchart h) .td,
    map_nodeContent_trip hchart h, map_edgeContent_trip hchart h⟩

/-- A flowchart with a subgraph, a label inside an arrow and one that needs quotes when written. -/
def queueText : String :=
  "flowchart TD\nsubgraph S[Group]\nA([Start]) -- yes; go --> B[(Queue #1)] -.- C;\nend\n"

/-- The lines of the flowchart below its header. -/
def queueBody : List (List Char) :=
  ["subgraph S[Group]".toList, "A([Start]) -- yes; go --> B[(Queue #1)] -.- C".toList,
    "end".toList]

theorem flowchart_trip_queueText :
    ∃ drawing m back, (toDrawing queueText false).result = .ok drawing ∧
      (toMermaid drawing {} 0).result = .ok m ∧ Mermaid.read m.mermaid = .ok back ∧
        back.graph.nodes.map nodeContent =
          [("A", "Start", .stadium), ("B", "Queue #1", .cylinder), ("C", "C", .rectangle)] ∧
          back.graph.edges.map edgeContent =
            [("A", "B", "yes; go", .plain, true), ("B", "C", "", .dashed, false)] := by
  have hstatements : statements queueText.toList = "flowchart TD".toList :: queueBody := by
    decide +kernel
  have hheader : headerType? "flowchart TD".toList = some .flowchart := by decide +kernel
  have hnodes : (Flowchart.read queueBody).nodes.isEmpty = false := by decide
  have hread : Mermaid.read queueText = .ok ⟨.flowchart, Flowchart.read queueBody⟩ :=
    read_of_statements hstatements hheader hnodes
  have hsteady : IsSteadyChart (Flowchart.read queueBody) :=
    ⟨by decide, by decide, by decide +kernel, by decide +kernel, by decide +kernel,
      by decide +kernel, by decide, by decide⟩
  obtain ⟨drawing, m, back, hdrawing, hm, hback, hnodes, hedges⟩ :=
    flowchart_trip hread rfl hsteady
  exact ⟨drawing, m, back, hdrawing, hm, hback, hnodes.trans (by decide +kernel),
    hedges.trans (by decide +kernel)⟩

end DiagramBridge
