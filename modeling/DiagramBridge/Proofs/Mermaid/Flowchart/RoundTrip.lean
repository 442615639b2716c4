import DiagramBridge.Mermaid.Reader
import DiagramBridge.Mermaid.Writer
import DiagramBridge.Proofs.Diagram.Graph
import DiagramBridge.Proofs.Mermaid.Flowchart.WrittenLine
import DiagramBridge.Proofs.Mermaid.Identifier
import DiagramBridge.Proofs.Mermaid.Run

/-!
# Written flowcharts are read back

The lines of the nodes come first, each under an id that no line before it has, so each of them
appends one node. Every line of an edge finds both its ends among these nodes and appends one edge.
No line opens a subgraph, and so every node stays outside of all subgraphs.
-/

namespace DiagramBridge.Mermaid.Flowchart

open Text

/-! ## Single lines -/

/-- No subgraph is open. -/
def IsOutside (p : Progress) : Prop :=
  p.scopes = []

theorem mention_of_outside {p : Progress} (hp : IsOutside p) (id : String)
    (bracket : Option (Shape × List Char)) :
    p.mention id bracket = { p with
      graph := p.graph.mention
        { id, label := bracket.map fun b => String.ofList b.2, shape := bracket.map (·.1) } } := by
  have hscopes : p.scopes = [] := hp
  rw [Progress.mention, hscopes]

theorem identify_of_ne {p : Progress} {t : NodeText} (h : t.id ≠ []) :
    p.identify t = (p, String.ofList t.id) := by
  rw [Progress.identify, if_neg (by simpa using h)]

theorem readPart_of_hasNode {p : Progress} {part : List Char} {id : String} (hp : IsOutside p)
    (hne : id.toList ≠ []) (hpart : NodeText.read? part = some ⟨id.toList, none⟩)
    (hid : p.graph.hasNode id = true) : p.readPart part = (p, some id) := by
  have hmention : p.graph.mention { id, label := none, shape := none } = p.graph :=
    Graph.nodes_mention_of_bare hid rfl
  rw [Progress.readPart, hpart]
  simp only [identify_of_ne (t := ⟨id.toList, none⟩) hne, String.ofList_toList,
    mention_of_outside hp, Option.map_none, hmention]

/-- What is read from the line of a node, whatever its text: label and shape are those of the
brackets that the text is taken to have. -/
def shownNode (id : String) (n : Node) : Node :=
  Mention.toNode
    { id
      label := (bracket? (bracketText n)).map fun b => String.ofList b.2
      shape := (bracket? (bracketText n)).map (·.1) }

/-- What is read from the line of an edge behind the given number of edges, whatever its label. -/
def shownEdge (id : String → String) (i : Nat) (e : Edge) : Edge where
  id := "edge_" ++ decimalString i
  source := id e.source
  target := id e.target
  label := String.ofList (unquote (labelText e.label.toList))
  lineStyle := e.lineStyle
  arrowEnd := e.arrowEnd

/-- Without an arrow in the label, the line of a node is a chain of one part. -/
theorem ofLine_nodeStatement {id : String} {n : Node} (hid : ∀ c ∈ id.toList, isWord c = true)
    (hchain : IsChainLine (nodeStatement id n)) (harrow : IsArrowFree (nodeLabel n)) :
    Statement.ofLine (nodeStatement id n) = .chain ⟨nodeStatement id n, []⟩ := by
  rw [hchain, ofLine_of_arrowFree ((isArrowFree_nodeStatement_iff hid).2 harrow)]

theorem read?_nodeStatement {id : String} (n : Node) (hne : id.toList ≠ [])
    (hid : ∀ c ∈ id.toList, isWord c = true) :
    NodeText.read? (nodeStatement id n) = some ⟨id.toList, bracket? (bracketText n)⟩ := by
  obtain ⟨hword, hblank⟩ := stops_bracketText n
  refine read?_append hne hid hword hblank ?_
  rw [bracketText, ← List.append_assoc]
  exact stops_reverse_closing n.shape _

theorem appends_nodeStatement {p : Progress} {id : String} {n : Node} (hp : IsOutside p)
    (hne : id.toList ≠ []) (hid : ∀ c ∈ id.toList, isWord c = true)
    (hchain : IsChainLine (nodeStatement id n)) (harrow : IsArrowFree (nodeLabel n))
    (hnew : p.graph.hasNode id = false) :
    Appends Progress.graph IsOutside p (p.readLine (nodeStatement id n)) [shownNode id n] [] := by
  have hstep : p.readLine (nodeStatement id n) = { p with
      graph := p.graph.mention
        { id
          label := (bracket? (bracketText n)).map fun b => String.ofList b.2
          shape := (bracket? (bracketText n)).map (·.1) } } := by
    rw [Progress.readLine, ofLine_nodeStatement hid hchain harrow, Progress.step,
      Progress.readChain, Progress.readPart, read?_nodeStatement n hne hid]
    simp only [identify_of_ne (t := ⟨id.toList, _⟩) hne, String.ofList_toList,
      mention_of_outside hp, Progress.readHops]
  rw [hstep]
  exact ⟨hp, Graph.nodes_mention_of_new hnew, by rw [Graph.edges_mention, List.append_nil]⟩

theorem appends_edgeStatement {p : Progress} {ids : String → String} {e : Edge} (hp : IsOutside p)
    (he : HasWordEnds p.graph ids e)
    (hchain : IsChainLine (edgeStatement (ids e.source) (ids e.target) e))
    (hbar : '|' ∉ e.label.toList) :
    Appends Progress.graph IsOutside p
      (p.readLine (edgeStatement (ids e.source) (ids e.target) e)) []
      [shownEdge ids p.graph.edges.length e] := by
  have hfirst : NodeText.read? ((ids e.source).toList ++ [' ']) =
      some ⟨(ids e.source).toList, none⟩ :=
    read?_word (b := []) (e := [' ']) (by simp) (by decide) he.source he.wordSource
  have hlast : NodeText.read? (' ' :: (ids e.target).toList) =
      some ⟨(ids e.target).toList, none⟩ := by
    have h := read?_word (b := [' ']) (e := []) (by decide) (by simp) he.target he.wordTarget
    rwa [List.append_nil] at h
  rw [Progress.readLine, hchain, ofLine_edgeStatement he.wordSource he.wordTarget hbar,
    Progress.step, Progress.readChain]
  simp only [readPart_of_hasNode hp he.source hfirst he.hasSource, Progress.readHops,
    readPart_of_hasNode hp he.target hlast he.hasTarget]
  exact ⟨hp, (List.append_nil _).symm, rfl⟩

/-! ## Ids and the words of statements -/

/-- No Mermaid id makes a line of the graph a statement of another kind than a chain. -/
structure HasOrdinaryIds (g : Graph) : Prop where
  notOpening : ∀ n ∈ g.nodes, ¬ "subgraph".toList <+: (idOf g n.id).toList
  notLinkStyle : ∀ e ∈ g.validEdges, idOf g e.source ≠ "linkStyle"

/-- Of the words that begin a statement about looks, only one can be an id. -/
theorem idOf_ne_skippedWords_iff {g : Graph} {id : String} (hid : id ∈ g.nodeIds) :
    (∀ v ∈ skippedWords, v.toList ≠ (idOf g id).toList ++ [' ']) ↔ idOf g id ≠ "linkStyle" := by
  constructor
  · intro h heq
    refine h "linkStyle " (by decide) ?_
    rw [heq]
    decide
  · intro hlink v hv heq
    have hsplit : ∀ u : String, v.toList = u.toList ++ [' '] → idOf g id = u := fun u hu =>
      String.toList_injective (List.append_cancel_right (heq.symm.trans hu))
    have hword := idOf_not_mem_statementWords hid
    -- The writer keeps ids away from all these words but one.
    simp only [skippedWords, List.mem_cons, List.not_mem_nil, or_false] at hv
    rcases hv with rfl | rfl | rfl | rfl | rfl
    · exact hword (hsplit "style" rfl ▸ by decide)
    · exact hword (hsplit "classDef" rfl ▸ by decide)
    · exact hword (hsplit "class" rfl ▸ by decide)
    · exact hlink (hsplit "linkStyle" rfl)
    · exact hword (hsplit "click" rfl ▸ by decide)

/-- The lines of a graph are chains exactly when its Mermaid ids are ordinary. -/
theorem hasOrdinaryIds_iff {g : Graph} :
    HasOrdinaryIds g ↔ (∀ n ∈ g.nodes, IsChainLine (nodeStatement (idOf g n.id) n)) ∧
      ∀ e ∈ g.validEdges, IsChainLine (edgeStatement (idOf g e.source) (idOf g e.target) e) := by
  have hnode : ∀ n ∈ g.nodes, (IsChainLine (nodeStatement (idOf g n.id) n) ↔
      ¬ "subgraph".toList <+: (idOf g n.id).toList) := fun n hn =>
    isChainLine_nodeStatement_iff fun c => isWord_of_mem_idOf (List.mem_map_of_mem hn)
  have hedge : ∀ e ∈ g.validEdges,
      (IsChainLine (edgeStatement (idOf g e.source) (idOf g e.target) e) ↔
        idOf g e.source ≠ "linkStyle" ∧ ¬ "subgraph".toList <+: (idOf g e.source).toList) := by
    intro e he
    obtain ⟨-, hsource, -⟩ := Graph.mem_validEdges.1 he
    rw [isChainLine_edgeStatement_iff fun c => isWord_of_mem_idOf hsource,
      idOf_ne_skippedWords_iff hsource]
  constructor
  · intro h
    refine ⟨fun n hn => (hnode n hn).2 (h.notOpening n hn), fun e he => (hedge e he).2 ?_⟩
    obtain ⟨n, hn, hsource⟩ := List.mem_map.1 (Graph.mem_validEdges.1 he).2.1
    exact ⟨h.notLinkStyle e he, hsource ▸ h.notOpening n hn⟩
  · rintro ⟨hnodes, hedges⟩
    exact ⟨fun n hn => (hnode n hn).1 (hnodes n hn), fun e he => ((hedge e he).1 (hedges e he)).1⟩

/-! ## Whole texts -/

/-- The statements of a written flowchart below its header. -/
def body (g : Graph) : List (List Char) :=
  g.nodes.map (fun n => nodeStatement (idOf g n.id) n) ++
    g.validEdges.map fun e => edgeStatement (idOf g e.source) (idOf g e.target) e

/-- A graph whose lines are cut where they were put together. -/
structure HasPlainLines (g : Graph) : Prop where
  ids : HasOrdinaryIds g
  arrowFree : ∀ n ∈ g.nodes, IsArrowFree (nodeLabel n)
  barFree : ∀ e ∈ g.validEdges, '|' ∉ e.label.toList

/-- The nodes and edges of a written flowchart, whatever is read of their texts. -/
theorem read_body_of_hasPlainLines {g : Graph} (h : HasPlainLines g) :
    (read (body g)).nodes = g.nodes.map (fun n => shownNode (idOf g n.id) n) ∧
      (read (body g)).edges = g.validEdges.mapIdx (shownEdge (idOf g)) := by
  obtain ⟨hnodeLines, hedgeLines⟩ := hasOrdinaryIds_iff.1 h.ids
  have hnode : ∀ p : Progress, ∀ n ∈ g.nodes, IsOutside p →
      p.graph.hasNode (idOf g n.id) = false → Appends Progress.graph IsOutside p
        (p.readLine (nodeStatement (idOf g n.id) n)) [shownNode (idOf g n.id) n] [] := by
    intro p n hn hp hnew
    have hid : n.id ∈ g.nodeIds := List.mem_map_of_mem hn
    exact appends_nodeStatement hp (idOf_toList_ne_nil hid) (fun c => isWord_of_mem_idOf hid)
      (hnodeLines n hn) (h.arrowFree n hn) hnew
  have hedge : ∀ p : Progress, ∀ e ∈ g.validEdges, IsOutside p →
      p.graph.nodes = g.nodes.map (fun n => shownNode (idOf g n.id) n) →
        Appends Progress.graph IsOutside p
          (p.readLine (edgeStatement (idOf g e.source) (idOf g e.target) e)) []
          [shownEdge (idOf g) p.graph.edges.length e] := by
    intro p e he hp hnodes
    exact appends_edgeStatement hp (hasWordEnds (fun _ => rfl) hnodes he) (hedgeLines e he)
      (h.barFree e he)
  rw [read, body]
  exact nodes_edges_of_lines hnode hedge (nodup_map_idOf g) rfl rfl

/-! ## Texts that are read as they were -/

def nodeOfText (id : String) (n : Node) : Node where
  id := id
  label := String.ofList (encode (nodeLabel n))
  shape := bracketed n.shape

/-- A node whose text can stand in a flowchart. -/
structure HasPlainText (n : Node) : Prop where
  nonempty : encode (nodeLabel n) ≠ []
  trimmed : IsTrimmed (encode (nodeLabel n))
  arrowFree : IsArrowFree (encode (nodeLabel n))
  slashes : bracketed n.shape = .rectangle → (nodeLabel n).any needsQuotes = false →
    ¬ ((encode (nodeLabel n)).head? = some '/' ∧ (encode (nodeLabel n)).getLast? = some '/')

instance (n : Node) : Decidable (HasPlainText n) :=
  decidable_of_iff (_ ∧ _ ∧ _ ∧ _)
    ⟨fun h => ⟨h.1, h.2.1, h.2.2.1, h.2.2.2⟩, fun h => ⟨h.1, h.2, h.3, h.4⟩⟩

theorem shownNode_eq {n : Node} (h : HasPlainText n) (id : String) :
    shownNode id n = nodeOfText id n := by
  have hbracket : bracket? (bracketText n) =
      some (bracketed n.shape, encode (nodeLabel n)) := by
    rw [bracketText, bracket?_written _ (fitsBrackets_labelText h.nonempty h.slashes),
      unquote_labelText h.trimmed]
  rw [shownNode, hbracket]
  rfl

/-- How the edge of a written line is read behind the given number of edges. -/
def edgeOfText (id : String → String) (i : Nat) (e : Edge) : Edge where
  id := "edge_" ++ decimalString i
  source := id e.source
  target := id e.target
  label := String.ofList (encode e.label.toList)
  lineStyle := e.lineStyle
  arrowEnd := e.arrowEnd

theorem shownEdge_eq {e : Edge} (h : IsTrimmed (encode e.label.toList)) (ids : String → String)
    (i : Nat) : shownEdge ids i e = edgeOfText ids i e := by
  rw [shownEdge, unquote_labelText h, edgeOfText]

theorem mapIdx_shownEdge {es : List Edge} (h : ∀ e ∈ es, IsTrimmed (encode e.label.toList))
    (ids : String → String) : es.mapIdx (shownEdge ids) = es.mapIdx (edgeOfText ids) := by
  rw [List.mapIdx_eq_mapIdx_iff]
  exact fun i hi => shownEdge_eq (h _ (List.getElem_mem hi)) ids i

/-- A graph that a flowchart can hold: its texts can stand on a line, and no node got an id that
opens a statement of another kind. -/
structure IsPlainChart (g : Graph) : Prop where
  nodes : ∀ n ∈ g.nodes, HasPlainText n
  labelsTrimmed : ∀ e ∈ g.validEdges, IsTrimmed (encode e.label.toList)
  labelsBarred : ∀ e ∈ g.validEdges, '|' ∉ encode e.label.toList
  notOpening : ∀ n ∈ g.nodes, ¬ "subgraph".toList <+: (idOf g n.id).toList
  notLinkStyle : ∀ n ∈ g.nodes, idOf g n.id ≠ "linkStyle"

theorem IsPlainChart.hasPlainLines {g : Graph} (h : IsPlainChart g) : HasPlainLines g where
  ids := by
    refine ⟨h.notOpening, fun e he => ?_⟩
    obtain ⟨n, hn, hsource⟩ := List.mem_map.1 (Graph.mem_validEdges.1 he).2.1
    exact hsource ▸ h.notLinkStyle n hn
  arrowFree := fun n hn => isArrowFree_encode_iff.1 (h.nodes n hn).arrowFree
  barFree := fun e he hmem => h.labelsBarred e he ((mem_encode_iff (by decide)).2 hmem)

theorem read_body {g : Graph} (h : IsPlainChart g) :
    (read (body g)).nodes = g.nodes.map (fun n => nodeOfText (idOf g n.id) n) ∧
      (read (body g)).edges = g.validEdges.mapIdx (edgeOfText (idOf g)) := by
  obtain ⟨hnodes, hedges⟩ := read_body_of_hasPlainLines h.hasPlainLines
  rw [mapIdx_shownEdge h.labelsTrimmed] at hedges
  rw [List.map_congr_left fun n hn => shownNode_eq (h.nodes n hn) _] at hnodes
  exact ⟨hnodes, hedges⟩

end DiagramBridge.Mermaid.Flowchart
