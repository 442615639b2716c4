import DiagramBridge.Mermaid.Reader
import DiagramBridge.Proofs.Mermaid.ClassDiagram.ReadGraph
import DiagramBridge.Proofs.Mermaid.Flowchart.ReadGraph
import DiagramBridge.Proofs.Mermaid.Sequence.ReadGraph

/-!
# Graphs that are read are well-formed

Statements are cut out of the text, whether it is fenced or not, and each reader takes steps with a
material that comes from the statements. So reading invents no characters but those of the ids it
gives, and every graph that is read, in whatever notation, has its nodes, edges and labels in order.
-/

namespace DiagramBridge

open Text

/-- What holds of the graph of every text of a type: it has nodes, each is found under its id, which
is a word without white space, edges run between nodes and are numbered from the first, and classes
are the nodes of class diagrams and alone have members. -/
structure Graph.IsWellFormed (type : DiagramType) (g : Graph) : Prop where
  nonempty : g.nodes ≠ []
  stored : ∀ n ∈ g.nodes, g.node? n.id = some n
  ids : ∀ n ∈ g.nodes, n.id ≠ "" ∧ ∀ c ∈ n.id.toList, isBlank c = false
  ends : ∀ e ∈ g.edges, e.source ∈ g.nodeIds ∧ e.target ∈ g.nodeIds
  valid : g.validEdges = g.edges
  numbered : g.edges.map Edge.id = (List.range g.edges.length).map numberedEdgeId
  labels : ∀ e ∈ g.edges, IsTrimmed e.label.toList
  members : ∀ n ∈ g.nodes, n.members ≠ [] → n.kind = .classLike
  kinds : ∀ n ∈ g.nodes, n.kind = .classLike ↔ type = .classDiagram

theorem Graph.IsReadAs.isWellFormed {type : DiagramType} {g : Graph} (h : g.IsReadAs type)
    (hne : g.nodes ≠ []) : g.IsWellFormed type where
  nonempty := hne
  stored n hn := node?_of_mem hn
  ids n hn := by
    obtain ⟨hid, hblank⟩ := (h.consists.nodes n hn).name
    exact ⟨fun heq => hid (by rw [heq]; rfl), hblank⟩
  ends := h.consists.ends
  valid := h.consists.validEdges_eq
  numbered := h.numbered
  labels e he := (h.consists.edges e he).label
  members n hn hmembers := by
    have hread := h.consists.nodes n hn
    rw [hread.kind, DiagramType.nodeKind_eq_classLike_iff]
    exact hread.members hmembers
  kinds n hn := by
    rw [(h.consists.nodes n hn).kind, DiagramType.nodeKind_eq_classLike_iff]

namespace Mermaid

/-! ## Statements -/

theorem afterLastLineFeed?_subset {s rest : List Char} (h : afterLastLineFeed? s = some rest) :
    rest ⊆ s := by
  have hspan := (span_subset (· != '\n') s.reverse).1
  rw [afterLastLineFeed?] at h
  split at h
  · next tail c front heq =>
    rw [heq] at hspan
    rw [← Option.some.inj h]
    exact fun d hd => List.mem_reverse.1 (hspan (List.mem_reverse.1 hd))
  · exact absurd h (by simp)

theorem fencedBody?_subset {s body : List Char} (h : fencedBody? s = some body) : body ⊆ s := by
  simp only [fencedBody?, Option.bind_eq_bind, Option.bind_eq_some_iff] at h
  obtain ⟨t, ht, u, hu, indent, hindent, front, hfront, h⟩ := h
  obtain ⟨hblank, hrest⟩ := span_subset isBlank u
  have hboth : indent ++ (u.span isBlank).2 ⊆ u :=
    List.append_subset.2 ⟨List.Subset.trans (afterLastLineFeed?_subset hindent) hblank, hrest⟩
  rw [← Option.some.inj h]
  calc trimEnd front
      ⊆ front := trimEnd_subset front
    _ ⊆ trimEnd (indent ++ (u.span isBlank).2) := beforeEnd?_subset hfront
    _ ⊆ u := List.Subset.trans (trimEnd_subset _) hboth
    _ ⊆ t := List.Subset.trans (afterKeyword?_subset hu) (trimStart_subset t)
    _ ⊆ s := List.Subset.trans (after?_subset ht) (trimStart_subset s)

theorem statement_subset (line : List Char) : statement line ⊆ line :=
  List.Subset.trans (trimEnd_subset _)
    (List.Subset.trans (trimEndChar_subset ';' _) (trim_subset line))

/-- Statements are cut out of the text. -/
theorem statements_subset {s l : List Char} (h : l ∈ statements s) : l ⊆ s := by
  obtain ⟨line, hline, rfl⟩ := List.mem_map.1 (List.mem_filter.1 h).1
  refine List.Subset.trans (statement_subset line) (List.Subset.trans (lines_subset hline) ?_)
  rw [unfence]
  cases hbody : fencedBody? s with
  | none => exact List.Subset.refl s
  | some body => exact fencedBody?_subset hbody

/-! ## Graphs -/

/-- Each of the readers takes steps with its material. -/
theorem exists_steps_readBody {p : Char → Prop} (hword : ∀ c, isWord c = true → p c)
    (type : DiagramType) {body : List (List Char)} (hbody : ∀ line ∈ body, ∀ c ∈ line, p c) :
    ∃ M : Material, M.IsReadFrom type p ∧ Graph.Steps M .empty (readBody type body) := by
  cases type with
  | flowchart => exact ⟨_, Flowchart.isReadFrom_material p, Flowchart.steps_read hword hbody⟩
  | sequence => exact ⟨_, Sequence.isReadFrom_material p, Sequence.steps_read hbody⟩
  | classDiagram => exact ⟨_, ClassDiagram.isReadFrom_material p, ClassDiagram.steps_read hbody⟩

theorem isReadAs_readBody (type : DiagramType) (body : List (List Char)) :
    (readBody type body).IsReadAs type := by
  have hbody : ∀ line ∈ body, ∀ c ∈ line, True := fun _ _ _ _ => trivial
  obtain ⟨M, hM, hsteps⟩ :=
    exists_steps_readBody (p := fun _ => True) (fun _ _ => trivial) type hbody
  exact Graph.Steps.isReadAs hM hsteps

/-- A text with a header is read as the lines below it, if they mention a node. -/
theorem read_of_statements {text : String} {header : List Char} {body : List (List Char)}
    {type : DiagramType} (hstatements : statements text.toList = header :: body)
    (hheader : headerType? header = some type)
    (hnodes : (readBody type body).nodes.isEmpty = false) :
    read text = .ok ⟨type, readBody type body⟩ := by
  rw [read, hstatements]
  simp only [ofStatements, hheader, hnodes, Bool.false_eq_true, if_false]

/-- A graph that is read is that of the statements of the text, with the first one or without, and it
has nodes. -/
theorem exists_readBody_of_read {text : String} {d : Diagram} (h : read text = .ok d) :
    ∃ body, (∀ line ∈ body, line ∈ statements text.toList) ∧ d.graph = readBody d.type body ∧
      d.graph.nodes ≠ [] := by
  rw [read] at h
  split at h
  · exact absurd h (by simp)
  · next first rest heq =>
    dsimp only at h
    split_ifs at h with hnodes
    rw [List.isEmpty_iff] at hnodes
    rw [← Except.ok.inj h]
    rw [ofStatements] at hnodes ⊢
    cases htype : headerType? first with
    | some type =>
        exact ⟨rest, fun line hline => by simp [heq, hline], rfl, by simpa only [htype] using hnodes⟩
    | none => exact ⟨first :: rest, fun line hline => by rwa [heq], rfl,
        by simpa only [htype] using hnodes⟩

section

variable {text : String} {d : Diagram} (h : read text = .ok d)
include h

/-- The graph that is read from a text has its characters, and word characters. -/
theorem isMadeOf_of_read : d.graph.IsMadeOf fun c => c ∈ text.toList ∨ isWord c = true := by
  obtain ⟨body, hbody, hgraph, -⟩ := exists_readBody_of_read h
  obtain ⟨M, hM, hsteps⟩ :=
    exists_steps_readBody (p := fun c => c ∈ text.toList ∨ isWord c = true) (fun c hc => .inr hc)
      d.type fun line hline c hc => .inl (statements_subset (hbody line hline) hc)
  rw [hgraph]
  exact Graph.Steps.isMadeOf hM (fun c hc => .inr hc) hsteps

theorem isReadAs_of_read : d.graph.IsReadAs d.type := by
  obtain ⟨body, -, hgraph, -⟩ := exists_readBody_of_read h
  rw [hgraph]
  exact isReadAs_readBody d.type body

/-- **Every text that is read gives a well-formed graph**, whether it is a flowchart, with a header
or without, a sequence diagram or a class diagram. -/
theorem isWellFormed_of_read : d.graph.IsWellFormed d.type := by
  obtain ⟨-, -, -, hne⟩ := exists_readBody_of_read h
  exact (isReadAs_of_read h).isWellFormed hne

end

/-- A class with a member, and a relation to a class that is mentioned by it alone. -/
def stockText : String :=
  "classDiagram\nclass Order \x7b\n+total\n\x7d\nOrder \"1\" --> Item : lists\n"

theorem isWellFormed_of_read_stockText :
    ∃ d, read stockText = .ok d ∧ d.type = .classDiagram ∧ d.graph.nodeIds = ["Order", "Item"] ∧
      d.graph.edges.map Edge.id = ["edge_0"] ∧ d.graph.IsWellFormed .classDiagram := by
  have hstatements : statements stockText.toList = ["classDiagram".toList, "class Order \x7b".toList,
      "+total".toList, "\x7d".toList, "Order \"1\" --> Item : lists".toList] := by
    decide +kernel
  have hheader : headerType? "classDiagram".toList = some .classDiagram := by decide
  have hread : read stockText = .ok ⟨.classDiagram, _⟩ := read_of_statements hstatements hheader
    (by decide +kernel)
  exact ⟨_, hread, rfl, by decide +kernel, by decide +kernel, isWellFormed_of_read hread⟩

end Mermaid

end DiagramBridge
