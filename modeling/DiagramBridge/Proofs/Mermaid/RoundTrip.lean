import DiagramBridge.Mermaid.Writer
import DiagramBridge.Proofs.Mermaid.ClassDiagram.RoundTrip
import DiagramBridge.Proofs.Mermaid.Flowchart.RoundTrip
import DiagramBridge.Proofs.Mermaid.Sequence.RoundTrip
import DiagramBridge.Proofs.Mermaid.Statements
import DiagramBridge.Proofs.Mermaid.WellFormed

/-!
# Mermaid texts are read back

A written text has a header and indented statements. The header is read as that of the notation, for
a flowchart in whatever direction it is drawn, and each line gives back its statement.
-/

namespace DiagramBridge.Mermaid

open Text

theorem forall₂_lines {g : Graph} {R : List Char → List Char → Prop}
    {nodeLine nodeStatement : Node → List Char} {edgeLine edgeStatement : Edge → List Char}
    (hnodes : ∀ n ∈ g.nodes, R (nodeLine n) (nodeStatement n))
    (hedges : ∀ e ∈ g.validEdges, R (edgeLine e) (edgeStatement e)) :
    List.Forall₂ R (g.nodes.map nodeLine ++ g.validEdges.map edgeLine)
      (g.nodes.map nodeStatement ++ g.validEdges.map edgeStatement) := by
  refine List.rel_append ?_ ?_
  · rwa [List.forall₂_map_left_iff, List.forall₂_map_right_iff, List.forall₂_same]
  · rwa [List.forall₂_map_left_iff, List.forall₂_map_right_iff, List.forall₂_same]

/-! ## Flowcharts -/

theorem statements_write_flowchart (g : Graph) (direction : Direction) :
    statements (write g .flowchart direction).toList =
      ("flowchart ".toList ++ direction.name.toList) :: Flowchart.body g := by
  obtain ⟨s, hheader, hstatement⟩ : ∃ s, "flowchart ".toList ++ direction.name.toList = 'f' :: s ∧
      IsStatement ('f' :: s) := by
    cases direction <;>
      exact ⟨_, rfl, ⟨by decide, by decide, by decide, by decide⟩⟩
  have hindent : ∀ c ∈ Flowchart.indent, c = ' ' := by decide
  have hlines : List.Forall₂ HoldsStatement
      (g.nodes.map (fun n => Flowchart.nodeLine (idOf g n.id) n) ++
        g.validEdges.map fun e => Flowchart.edgeLine (idOf g e.source) (idOf g e.target) e)
      (Flowchart.body g) := by
    refine forall₂_lines (fun n hn => ?_) fun e he => ?_
    · have hid : n.id ∈ g.nodeIds := List.mem_map_of_mem hn
      exact ⟨Flowchart.isStatement_nodeStatement (idOf_toList_ne_nil hid)
        fun c => isWord_of_mem_idOf hid, _, hindent, Flowchart.nodeLine_eq _ _⟩
    · obtain ⟨-, hsource, htarget⟩ := Graph.mem_validEdges.1 he
      exact ⟨Flowchart.isStatement_edgeStatement (idOf_toList_ne_nil hsource)
        (fun c => isWord_of_mem_idOf hsource) (idOf_toList_ne_nil htarget)
        fun c => isWord_of_mem_idOf htarget, _, hindent, Flowchart.edgeLine_eq _ _ _⟩
  rw [write, String.toList_ofList, writeLines, Flowchart.write, hheader]
  exact statements_unlines (by decide) hstatement (hlines.imp fun _ _ => HoldsStatement.isReadAs)

/-- A written flowchart is read as one if a node is read from its lines. -/
theorem read_write_of_nodes {g : Graph} (hnodes : (Flowchart.read (Flowchart.body g)).nodes ≠ [])
    (direction : Direction) :
    read (write g .flowchart direction) = .ok ⟨.flowchart, Flowchart.read (Flowchart.body g)⟩ := by
  have hheader : headerType? ("flowchart ".toList ++ direction.name.toList) = some .flowchart := by
    cases direction <;> decide +kernel
  refine read_of_statements (statements_write_flowchart g direction) hheader ?_
  rwa [← Bool.not_eq_true, List.isEmpty_iff]

theorem read_write_of_flowchart {g : Graph} (hne : g.nodes ≠ []) (h : Flowchart.IsPlainChart g)
    (direction : Direction) :
    read (write g .flowchart direction) = .ok ⟨.flowchart, Flowchart.read (Flowchart.body g)⟩ := by
  refine read_write_of_nodes ?_ direction
  rw [(Flowchart.read_body h).1]
  simpa using hne

/-- **Round trip.** A graph comes back from its flowchart: the nodes in order, under their Mermaid
ids, with their texts as labels and in their shapes; and the valid edges in order, between the ids
of their ends, with their labels, lines and arrowheads. -/
theorem read_write_flowchart {g : Graph} (hne : g.nodes ≠ []) (h : Flowchart.IsPlainChart g)
    (direction : Direction) :
    ∃ chart, read (write g .flowchart direction) = .ok ⟨.flowchart, chart⟩ ∧
      chart.nodes = (g.nodes.map fun n => Flowchart.nodeOfText (idOf g n.id) n) ∧
        chart.edges = g.validEdges.mapIdx (Flowchart.edgeOfText (idOf g)) := by
  obtain ⟨hnodes, hedges⟩ := Flowchart.read_body h
  exact ⟨_, read_write_of_flowchart hne h direction, hnodes, hedges⟩

/-- A class with members, two ids for one word, labels that need quotes, and an edge to nowhere. -/
def tripGraph : Graph where
  nodes :=
    [{ id := "my trip", label := "Trip", shape := .classBox, kind := .classLike,
       members := ["+days : Int"] },
     { id := "my_trip", label := "say \"go\"", shape := .hexagon },
     { id := "end", label := "", shape := .asymmetric }]
  edges :=
    [{ id := "", source := "my trip", target := "my_trip", label := "a;\nb", lineStyle := .dashed,
       arrowEnd := false },
     { id := "", source := "end", target := "nowhere" },
     { id := "", source := "my_trip", target := "end", lineStyle := .thick }]
  subgraphs := []
  settled := []
  nodup := by decide

theorem read_write_flowchart_tripGraph :
    ∃ chart, read (write tripGraph .flowchart .lr) = .ok ⟨.flowchart, chart⟩ ∧
      chart.nodes =
        [{ id := "my_trip", label := "Trip<br/>+days : Int" },
         { id := "my_trip_1", label := "say #quot;go#quot;", shape := .hexagon },
         { id := "end_node", label := "end", shape := .asymmetric }] ∧
        chart.edges =
          [{ id := "edge_0", source := "my_trip", target := "my_trip_1", label := "a;<br/>b",
             lineStyle := .dashed, arrowEnd := false },
           { id := "edge_1", source := "my_trip_1", target := "end_node", lineStyle := .thick }] := by
  have hplain : Flowchart.IsPlainChart tripGraph :=
    ⟨by decide +kernel, by decide +kernel, by decide +kernel, by decide +kernel, by decide⟩
  obtain ⟨chart, hread, hnodes, hedges⟩ := read_write_flowchart (by decide) hplain .lr
  exact ⟨chart, hread, hnodes.trans (by decide +kernel), hedges.trans (by decide)⟩

/-! ## Class diagrams -/

theorem statements_write_classDiagram {g : Graph} (h : ClassDiagram.HasBodyLines g)
    (direction : Direction) :
    statements (write g .classDiagram direction).toList =
      "classDiagram".toList :: ClassDiagram.body g := by
  have hindent : ∀ c ∈ "    ".toList, c = ' ' := by decide
  have hlines : List.Forall₂ IsReadAs
      (g.nodes.flatMap (fun n => ClassDiagram.classLines (idOf g n.id) n) ++
        g.validEdges.map fun e =>
          ClassDiagram.relationLine (idOf g e.source) (idOf g e.target) e)
      (ClassDiagram.body g) := by
    refine List.rel_append ?_ ?_
    · refine List.rel_flatMap (List.forall₂_same.2 fun n hn => ?_) fun _ _ hclass => hclass
      have hid : n.id ∈ g.nodeIds := List.mem_map_of_mem hn
      exact (ClassDiagram.forall₂_classLines (idOf_toList_ne_nil hid)
        (fun c => isWord_of_mem_idOf hid) (h.members n hn)).imp fun _ _ => HoldsStatement.isReadAs
    · rw [List.forall₂_map_left_iff, List.forall₂_map_right_iff, List.forall₂_same]
      intro e he
      obtain ⟨-, hsource, htarget⟩ := Graph.mem_validEdges.1 he
      obtain ⟨b, hb, hline⟩ := ClassDiagram.relationLine_eq (idOf g e.source) (idOf g e.target) e
      rw [hline]
      exact (ClassDiagram.isStatement_edgeStatement (idOf_toList_ne_nil hsource)
        (fun c => isWord_of_mem_idOf hsource) (idOf_toList_ne_nil htarget)
        (fun c => isWord_of_mem_idOf htarget) (h.labels e he)).isReadAs hindent hb
  rw [write, String.toList_ofList, writeLines, ClassDiagram.write, List.cons_append]
  exact statements_unlines (by decide) ⟨by decide, by decide, by decide, by decide⟩ hlines

theorem read_write_of_hasBodyLines {g : Graph} (hne : g.nodes ≠ [])
    (h : ClassDiagram.HasBodyLines g) (direction : Direction) :
    read (write g .classDiagram direction) =
      .ok ⟨.classDiagram, ClassDiagram.read (ClassDiagram.body g)⟩ := by
  have hheader : headerType? "classDiagram".toList = some .classDiagram := by decide +kernel
  have hnodes : (ClassDiagram.read (ClassDiagram.body g)).nodes.isEmpty = false := by
    rw [(ClassDiagram.read_body_of_hasBodyLines h).1]
    simpa using hne
  exact read_of_statements (statements_write_classDiagram h direction) hheader hnodes

theorem read_write_of_classDiagram {g : Graph} (hne : g.nodes ≠ [])
    (h : ClassDiagram.IsPlainClasses g) (direction : Direction) :
    read (write g .classDiagram direction) =
      .ok ⟨.classDiagram, ClassDiagram.read (ClassDiagram.body g)⟩ :=
  read_write_of_hasBodyLines hne h.hasBodyLines direction

/-- **Round trip.** A graph comes back from its class diagram: the nodes in order as classes, under
their Mermaid ids, with labels and members on one line each; and the valid edges in order, between
the ids of their ends, with labels on one line and with the relations they were drawn with. -/
theorem read_write_classDiagram {g : Graph} (hne : g.nodes ≠ []) (h : ClassDiagram.HasBodyLines g)
    (direction : Direction) :
    ∃ classes, read (write g .classDiagram direction) = .ok ⟨.classDiagram, classes⟩ ∧
      classes.nodes = (g.nodes.map fun n => ClassDiagram.shownClass (idOf g n.id) n) ∧
        classes.edges = g.validEdges.mapIdx (ClassDiagram.shownRelation (idOf g)) := by
  obtain ⟨hnodes, hedges⟩ := ClassDiagram.read_body_of_hasBodyLines h
  exact ⟨_, read_write_of_hasBodyLines hne h direction, hnodes, hedges⟩

/-- A label that looks like the end of a declaration, a blank label, members with white space, an
edge that tells its relation by its style, an edge with a blank label, and an edge to nowhere. -/
def shelfGraph : Graph where
  nodes :=
    [{ id := "shelf", label := "a \"big\"] \x7b\n\x7d", members := ["  +load :  Int "] },
     { id := "my book", label := " \t" },
     { id := "class", label := "Kind", shape := .hexagon, members := ["one]", "two:"] }]
  edges :=
    [{ id := "", source := "shelf", target := "my book", label := " holds\n[many]",
       style := "endArrow=block;dashed=1;" },
     { id := "", source := "my book", target := "nowhere", label := ";" },
     { id := "", source := "class", target := "shelf", label := " ", relation := some .aggregation }]
  subgraphs := []
  settled := []
  nodup := by decide

theorem read_write_classDiagram_shelfGraph :
    ∃ classes, read (write shelfGraph .classDiagram .td) = .ok ⟨.classDiagram, classes⟩ ∧
      classes.nodes =
        [{ id := "shelf", label := "a 'big'] \x7b \x7d", shape := .classBox, kind := .classLike,
           members := ["+load : Int"] },
         { id := "my_book", label := "my_book", shape := .classBox, kind := .classLike },
         { id := "class_node", label := "Kind", shape := .classBox, kind := .classLike,
           members := ["one]", "two:"] }] ∧
        classes.edges =
          [{ id := "edge_0", source := "shelf", target := "my_book", label := "holds [many]",
             lineStyle := .dashed, relation := some .realization },
           { id := "edge_1", source := "class_node", target := "shelf", lineStyle := .plain,
             relation := some .aggregation }] := by
  have hlines : ClassDiagram.HasBodyLines shelfGraph := ⟨by decide, by decide⟩
  obtain ⟨classes, hread, hnodes, hedges⟩ := read_write_classDiagram (by decide) hlines .td
  exact ⟨classes, hread, hnodes.trans (by decide +kernel), hedges.trans (by decide +kernel)⟩

/-! ## Sequence diagrams -/

theorem statements_write_sequence {g : Graph} (hnodes : ∀ n ∈ g.nodes, Sequence.KeepsEnd n.label)
    (hedges : ∀ e ∈ g.validEdges, Sequence.KeepsEnd e.label) (direction : Direction) :
    statements (write g .sequence direction).toList =
      "sequenceDiagram".toList :: Sequence.body g := by
  have hindent : ∀ c ∈ "    ".toList, c = ' ' := by decide
  have hlines : List.Forall₂ HoldsStatement
      (g.nodes.map (fun n => Sequence.participantLine (idOf g n.id) n) ++
        g.validEdges.map fun e => Sequence.messageLine (idOf g e.source) (idOf g e.target) e)
      (Sequence.body g) := by
    refine forall₂_lines (fun n hn => ?_) fun e he => ?_
    · have hid : n.id ∈ g.nodeIds := List.mem_map_of_mem hn
      exact ⟨Sequence.isStatement_participantStatement (idOf_toList_ne_nil hid)
        (fun c => isWord_of_mem_idOf hid) (hnodes n hn), _, hindent, Sequence.participantLine_eq _ _⟩
    · obtain ⟨-, hsource, htarget⟩ := Graph.mem_validEdges.1 he
      exact ⟨Sequence.isStatement_messageStatement (idOf_toList_ne_nil hsource)
        (fun c => isWord_of_mem_idOf hsource) (fun c => isWord_of_mem_idOf htarget) (hedges e he),
        _, hindent, Sequence.messageLine_eq _ _ _⟩
  rw [write, String.toList_ofList, writeLines, Sequence.write, List.cons_append]
  exact statements_unlines (by decide) ⟨by decide, by decide, by decide, by decide⟩
    (hlines.imp fun _ _ => HoldsStatement.isReadAs)

/-- **Round trip.** A graph comes back from its sequence diagram: the nodes in order as participants,
circles as actors, under their Mermaid ids and with their labels on one line; and the valid edges in
order as messages between the ids of their ends, dashed ones as dashed, with labels on one line. -/
theorem read_write_sequence {g : Graph} (hne : g.nodes ≠ [])
    (hnodes : ∀ n ∈ g.nodes, Sequence.KeepsEnd n.label)
    (hedges : ∀ e ∈ g.validEdges, Sequence.KeepsEnd e.label) (direction : Direction) :
    ∃ messages, read (write g .sequence direction) = .ok ⟨.sequence, messages⟩ ∧
      messages.nodes = (g.nodes.map fun n => Sequence.shownParticipant (idOf g n.id) n) ∧
        messages.edges = g.validEdges.mapIdx (Sequence.shownMessage (idOf g)) := by
  obtain ⟨hns, hes⟩ := Sequence.read_body g
  have hheader : headerType? "sequenceDiagram".toList = some .sequence := by decide
  have hmentioned : (Sequence.read (Sequence.body g)).nodes.isEmpty = false := by
    rw [hns]
    simpa using hne
  exact ⟨_, read_of_statements (statements_write_sequence hnodes hedges direction) hheader hmentioned,
    hns, hes⟩

/-- Ids that are keywords, labels that look like the end of a declaration and like a message, a label
with white space, blank labels, and a message to nowhere. -/
def callGraph : Graph where
  nodes :=
    [{ id := "participant", label := "as" },
     { id := "my user", label := " Bob:\n the  \"user\" ", shape := .circle },
     { id := "actor", label := "actor", shape := .circle },
     { id := "end", label := "\t", shape := .hexagon }]
  edges :=
    [{ id := "", source := "my user", target := "participant", label := "A-->>B: x  as y",
       lineStyle := .dashed },
     { id := "", source := "actor", target := "nowhere", label := ";" },
     { id := "", source := "end", target := "actor", label := " ", lineStyle := .thick }]
  subgraphs := []
  settled := []
  nodup := by decide

theorem read_write_sequence_callGraph :
    ∃ messages, read (write callGraph .sequence .td) = .ok ⟨.sequence, messages⟩ ∧
      messages.nodes =
        [{ id := "participant", label := "as" },
         { id := "my_user", label := "Bob: the \"user\"", shape := .circle },
         { id := "actor", label := "actor", shape := .circle },
         { id := "end_node", label := "end_node" }] ∧
        messages.edges =
          [{ id := "edge_0", source := "my_user", target := "participant", label := "A-->>B: x as y",
             lineStyle := .dashed },
           { id := "edge_1", source := "end_node", target := "actor", label := "message" }] := by
  have hlabels : ∀ n ∈ callGraph.nodes, Sequence.KeepsEnd n.label := by decide
  have htexts : ∀ e ∈ callGraph.validEdges, Sequence.KeepsEnd e.label := by decide
  obtain ⟨messages, hread, hnodes, hedges⟩ := read_write_sequence (by decide) hlabels htexts .td
  exact ⟨messages, hread, hnodes.trans (by decide), hedges.trans (by decide)⟩

end DiagramBridge.Mermaid
