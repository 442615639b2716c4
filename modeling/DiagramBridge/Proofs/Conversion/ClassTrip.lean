import DiagramBridge.Proofs.Conversion.Pipeline
import DiagramBridge.Proofs.Conversion.SafeIds
import DiagramBridge.Proofs.Mermaid.RoundTrip

/-!
# Class diagrams through a drawing and back

A class with members is drawn as a title with rows, and the rows are merged into it again in order.
A class without members comes back as a plain box; but whatever a class diagram declares is a class,
so it is one again in the second text. A relation is told from the style that it was drawn with.
-/

namespace DiagramBridge

open Drawio Mermaid Text Xml

/-- A class diagram that stays the same on its way: labels and members are as cleaning leaves them,
and each can stand on a line of its own. -/
structure IsSteadyClasses (g : Graph) : Prop where
  safe : HasSafeIds g
  labelled : ∀ n ∈ g.nodes, n.label ≠ ""
  nodeLabels : ∀ n ∈ g.nodes, IsNormalLine n.label.toList ∧ IsLegal n.label
  members : ∀ n ∈ g.nodes, ∀ m ∈ n.members, ClassDiagram.IsPlainMember m.toList ∧ IsLegal m
  edgeLabels : ∀ e ∈ g.edges, ClassDiagram.IsPlainLabel e.label.toList ∧ IsLegal e.label

/-- What a class diagram shows of a class. -/
def classContent (n : Node) : String × String × List String :=
  (n.id, n.label, n.members)

/-- What a class diagram shows of an edge. -/
def relationContent (e : Edge) : String × String × String × Option Relation :=
  (e.source, e.target, e.label, e.relation)

theorem isPlainClass_of_unplaced {n : Node} (h : ClassDiagram.IsPlainClass n.unplaced) :
    ClassDiagram.IsPlainClass n :=
  ⟨h.labelled, h.label, h.members⟩

/-- The relation of an edge is told from its drawing. -/
theorem edgeRelation_returnedEdge (cellId source target : String) {e : Edge} {relation : Relation}
    (h : e.relation = some relation) :
    ClassDiagram.edgeRelation (returnedEdge cellId source target e) = relation := by
  have hnone : (returnedEdge cellId source target e).relation = none := rfl
  have hstyle : (returnedEdge cellId source target e).style =
      edgeStyle e.lineStyle e.arrowEnd e.relation := rfl
  rw [ClassDiagram.edgeRelation, hnone, Option.getD_none, hstyle, h, relationOf_edgeStyle]

section

variable {g : Graph} (hg : ClassDiagram.IsClasses g) (h : IsSteadyClasses g)
include hg h

theorem hasReadableClasses_of_isClasses : HasReadableClasses g where
  title n hn _ := by
    rw [normalLabel_of_isNormalLine (h.nodeLabels n hn).1]
    exact h.labelled n hn
  shape n hn _ := by
    rw [(hg.nodes n hn).shape]
    decide
  member n hn hrows := by
    obtain ⟨m, hm⟩ := List.exists_mem_of_ne_nil _ hrows.2
    obtain ⟨hmember, -⟩ := h.members n hn m hm
    refine ⟨m, hm, ?_⟩
    rw [normalLabel_of_isNormalLine hmember.normal]
    simpa using hmember.nonempty

theorem hasOwnMemberIds_of_isClasses : HasOwnMemberIds g :=
  h.safe.hasOwnMemberIds fun e he => (hg.edges e he).id

theorem hasLegalTexts_of_isClasses : HasLegalTexts g where
  ids _ hn := h.safe.isLegal (List.mem_map_of_mem hn)
  labels n hn := (h.nodeLabels n hn).2
  members n hn m hm := (h.members n hn m hm).2
  edgeIds e he := isLegal_of_isWord (hg.edges e he).id
  edgeLabels e he := (h.edgeLabels e he).2

/-- The drawing keeps the texts of a class, and its kind if there are members. -/
theorem returnedNode_of_isClasses {n : Node} (hn : n ∈ g.nodes) :
    (returnedNode n.id n).label = n.label ∧ (returnedNode n.id n).members = n.members ∧
      (n.members ≠ [] → (returnedNode n.id n).kind = .classLike) := by
  have hlabel := normalLabel_of_isNormalLine (h.nodeLabels n hn).1
  by_cases hmembers : n.members = []
  · have hrows : ¬ HasRows n := fun hrows => hrows.2 hmembers
    rw [returnedNode, if_neg hrows]
    exact ⟨hlabel, hmembers.symm, fun hne => absurd hmembers hne⟩
  · have hrows : HasRows n := ⟨(hg.nodes n hn).kind, hmembers⟩
    have hnormal : n.members.map normalLabel = n.members := by
      conv_rhs => rw [← List.map_id n.members]
      exact List.map_congr_left fun m hm =>
        normalLabel_of_isNormalLine (h.members n hn m hm).1.normal
    have hreturned : returnedMembers n = n.members := by
      rw [returnedMembers, hnormal, List.filter_eq_self]
      intro m hm
      simpa using (h.members n hn m hm).1.nonempty
    rw [returnedNode, if_pos hrows]
    exact ⟨hlabel, hreturned, fun _ => rfl⟩

/-- What comes back from the drawing of a class diagram can be written as a class diagram. -/
theorem isPlainClasses_returnedGraph : ClassDiagram.IsPlainClasses (returnedGraph g) := by
  have hclasses := hasReadableClasses_of_isClasses hg h
  have hown := hasOwnMemberIds_of_isClasses hg h
  constructor
  · refine h.safe.forall_nodes_returnedGraph hclasses hown (fun _ => isPlainClass_of_unplaced)
      fun n hn => ?_
    obtain ⟨hlabel, hmembers, -⟩ := returnedNode_of_isClasses hg h hn
    refine ⟨?_, ?_, ?_⟩
    · rw [hlabel]
      exact h.labelled n hn
    · rw [hlabel]
      exact (h.nodeLabels n hn).1
    · rw [hmembers]
      exact fun m hm => (h.members n hn m hm).1
  · refine h.safe.forall_validEdges_returnedGraph hclasses hown fun e he cellId => ?_
    obtain ⟨hplain, -⟩ := h.edgeLabels e (Graph.mem_validEdges.1 he).1
    change ClassDiagram.IsPlainLabel (normalLabel e.label).toList
    rw [normalLabel_of_isNormalLine hplain.normal]
    exact hplain

/-- The classes of the second text are those of the first. -/
theorem map_classContent_trip :
    (ClassDiagram.read (ClassDiagram.body (returnedGraph g))).nodes.map classContent =
      g.nodes.map classContent := by
  have hclasses := hasReadableClasses_of_isClasses hg h
  have hown := hasOwnMemberIds_of_isClasses hg h
  calc (ClassDiagram.read (ClassDiagram.body (returnedGraph g))).nodes.map classContent
      = (returnedGraph g).nodes.map fun n => classContent (ClassDiagram.classOfText n.id n) := by
        rw [(ClassDiagram.read_body (isPlainClasses_returnedGraph hg h)).1, List.map_map]
        refine List.map_congr_left fun n hn => ?_
        rw [Function.comp_apply,
          h.safe.idOf_returnedGraph hclasses hown (List.mem_map_of_mem hn)]
    _ = g.nodes.map fun n =>
          classContent (ClassDiagram.classOfText n.id (returnedNode n.id n)) := by
        rw [h.safe.map_nodes_returnedGraph hclasses hown fun _ => rfl]
        refine List.map_congr_left fun n hn => ?_
        rw [id_returnedNode]
    _ = g.nodes.map classContent := by
        refine List.map_congr_left fun n hn => ?_
        obtain ⟨hlabel, hmembers, -⟩ := returnedNode_of_isClasses hg h hn
        simp only [classContent, ClassDiagram.classOfText, hlabel, hmembers]

/-- The relations of the second text are those of the first. -/
theorem map_relationContent_trip :
    (ClassDiagram.read (ClassDiagram.body (returnedGraph g))).edges.map relationContent =
      g.edges.map relationContent := by
  calc (ClassDiagram.read (ClassDiagram.body (returnedGraph g))).edges.map relationContent
      = (returnedGraph g).validEdges.map
          fun e => relationContent (ClassDiagram.relationOfText (idOf (returnedGraph g)) 0 e) := by
        rw [(ClassDiagram.read_body (isPlainClasses_returnedGraph hg h)).2]
        exact map_mapIdx_eq (fun _ _ => rfl) _
    _ = g.validEdges.map fun e => relationContent
          (ClassDiagram.relationOfText id 0 (returnedEdge "" e.source e.target e)) := by
        refine h.safe.map_validEdges_returnedGraph (hasReadableClasses_of_isClasses hg h)
          (hasOwnMemberIds_of_isClasses hg h)
          (f := fun ids e => relationContent (ClassDiagram.relationOfText ids 0 e))
          (fun _ _ _ _ => rfl) fun ids e hsource htarget => ?_
        simp only [relationContent, ClassDiagram.relationOfText, hsource, htarget, id_eq]
    _ = g.edges.map relationContent := by
        rw [hg.validEdges_eq]
        refine List.map_congr_left fun e he => ?_
        obtain ⟨relation, hrelation⟩ := Option.isSome_iff_exists.1 (hg.edges e he).relation
        have hlabel := normalLabel_of_isNormalLine (h.edgeLabels e he).1.normal
        simp only [relationContent, ClassDiagram.relationOfText,
          edgeRelation_returnedEdge _ _ _ hrelation, hrelation, id_eq]
        simp only [returnedEdge, hlabel]

/-- A class with members is known as one in the drawing, so the notation is guessed. -/
theorem guessType_returnedGraph (hmembers : ∃ n ∈ g.nodes, n.members ≠ [])
    (hwords : ∀ e ∈ g.edges, mentionsAny messageWords e.label = false) :
    (returnedGraph g).guessType = .classDiagram := by
  have hclasses := hasReadableClasses_of_isClasses hg h
  have hown := hasOwnMemberIds_of_isClasses hg h
  have hedges : ∀ e ∈ (returnedGraph g).edges, ¬ mentionsAny messageWords e.label = true := by
    rw [edges_returnedGraph hclasses hown, ← validEdges_returnedGraph hclasses hown]
    refine h.safe.forall_validEdges_returnedGraph hclasses hown fun e he cellId => ?_
    have hmem := (Graph.mem_validEdges.1 he).1
    change ¬ mentionsAny messageWords (normalLabel e.label) = true
    rw [normalLabel_of_isNormalLine (h.edgeLabels e hmem).1.normal, hwords e hmem]
    exact Bool.false_ne_true
  -- One class with members is enough, since the others come back as plain nodes.
  have hclass : ∃ n ∈ (returnedGraph g).nodes, n.kind = .classLike := by
    obtain ⟨n, hn, hne⟩ := hmembers
    have hkinds := h.safe.map_nodes_returnedGraph hclasses hown (f := Node.kind) fun _ => rfl
    have hmem : (returnedNode n.id n).kind ∈ (returnedGraph g).nodes.map Node.kind := by
      rw [hkinds]
      exact List.mem_map_of_mem (f := fun n => (returnedNode n.id n).kind) hn
    rw [(returnedNode_of_isClasses hg h hn).2.2 hne] at hmem
    exact List.mem_map.1 hmem
  rw [Graph.guessType, if_neg (by simpa using hedges), if_pos]
  obtain ⟨n, hn, hkind⟩ := hclass
  exact List.any_eq_true.2 ⟨n, hn, by simp [hkind]⟩

end

/-- **Round trip.** A class diagram is drawn, and the class diagram that is made of the drawing has
the same classes and relations again. If some class has members and no label speaks of messages, then
the notation need not be named: the guess gives the same text. -/
theorem class_trip {text : String} {d : Diagram} (hread : Mermaid.read text = .ok d)
    (htype : d.type = .classDiagram) (h : IsSteadyClasses d.graph) :
    ∃ drawing m back, (toDrawing text false).result = .ok drawing ∧
      (toMermaid drawing { type := .fixed .classDiagram } 0).result = .ok m ∧
      m.type = .classDiagram ∧ Mermaid.read m.mermaid = .ok back ∧
      back.graph.nodes.map classContent = d.graph.nodes.map classContent ∧
      (∀ n ∈ back.graph.nodes, n.kind = .classLike) ∧
      back.graph.edges.map relationContent = d.graph.edges.map relationContent ∧
      ((∃ n ∈ d.graph.nodes, n.members ≠ []) →
        (∀ e ∈ d.graph.edges, mentionsAny messageWords e.label = false) →
          (toMermaid drawing { type := .guess } 0).result = .ok m) := by
  obtain ⟨body, -, hbody, hne⟩ := exists_readBody_of_read hread
  have hg : ClassDiagram.IsClasses d.graph := by
    rw [hbody, htype]
    exact ClassDiagram.isClasses_read body
  have hclasses := hasReadableClasses_of_isClasses hg h
  have hown := hasOwnMemberIds_of_isClasses hg h
  obtain ⟨count, hdrawing⟩ :=
    result_read_write hne (hasLegalTexts_of_isClasses hg h) hclasses hown
  have hreturned := nodes_returnedGraph_ne_nil hne hclasses hown
  refine ⟨_, _, _, result_toDrawing hread false,
    result_toMermaid hdrawing { type := .fixed .classDiagram }, rfl,
    read_write_of_classDiagram hreturned (isPlainClasses_returnedGraph hg h) .td,
    map_classContent_trip hg h, fun n hn => ?_, map_relationContent_trip hg h,
    fun hmembers hwords => ?_⟩
  · exact ((ClassDiagram.isClasses_read _).nodes n hn).kind
  · have hguess : TypeChoice.guess.resolve (returnedGraph d.graph) = .classDiagram :=
      guessType_returnedGraph hg h hmembers hwords
    rw [result_toMermaid hdrawing { type := .guess }]
    simp only [hguess]
    rfl

/-- A class diagram with a body, a single member, a class without members and two relations. -/
def pondText : String :=
  "classDiagram\nclass Animal[\"Living thing\"] \x7b\n  +name : Text\n  +eat() Food\n\x7d\n" ++
    "Animal <|-- Duck\nDuck ..> Pond : swims in\nDuck : +quack()\n"

/-- The lines of the class diagram below its header. -/
def pondBody : List (List Char) :=
  ["class Animal[\"Living thing\"] \x7b".toList, "+name : Text".toList, "+eat() Food".toList,
    "\x7d".toList, "Animal <|-- Duck".toList, "Duck ..> Pond : swims in".toList,
    "Duck : +quack()".toList]

theorem class_trip_pondText :
    ∃ drawing m back, (toDrawing pondText false).result = .ok drawing ∧
      (toMermaid drawing { type := .fixed .classDiagram } 0).result = .ok m ∧
      m.type = .classDiagram ∧ Mermaid.read m.mermaid = .ok back ∧
      back.graph.nodes.map classContent =
        [("Animal", "Living thing", ["+name : Text", "+eat() Food"]),
          ("Duck", "Duck", ["+quack()"]), ("Pond", "Pond", [])] ∧
      back.graph.edges.map relationContent =
        [("Duck", "Animal", "", some .inheritance),
          ("Duck", "Pond", "swims in", some .dependency)] ∧
      (toMermaid drawing { type := .guess } 0).result = .ok m := by
  have hstatements : statements pondText.toList = "classDiagram".toList :: pondBody := by
    decide +kernel
  have hheader : headerType? "classDiagram".toList = some .classDiagram := by decide +kernel
  have hnodes : (ClassDiagram.read pondBody).nodes.isEmpty = false := by decide +kernel
  have hread : Mermaid.read pondText = .ok ⟨.classDiagram, ClassDiagram.read pondBody⟩ :=
    read_of_statements hstatements hheader hnodes
  have hsteady : IsSteadyClasses (ClassDiagram.read pondBody) :=
    ⟨by decide +kernel, by decide +kernel, by decide, by decide +kernel, by decide +kernel⟩
  obtain ⟨drawing, m, back, hdrawing, hm, htype, hback, hclasses, -, hrelations, hguess⟩ :=
    class_trip hread rfl hsteady
  exact ⟨drawing, m, back, hdrawing, hm, htype, hback, hclasses.trans (by decide),
    hrelations.trans (by decide +kernel), hguess (by decide +kernel) (by decide +kernel)⟩

end DiagramBridge
