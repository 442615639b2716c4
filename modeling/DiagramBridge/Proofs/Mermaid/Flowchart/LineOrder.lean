import DiagramBridge.Proofs.Mermaid.Flowchart.Declaration
import DiagramBridge.Proofs.Mermaid.Statements
import DiagramBridge.Proofs.Text.Fresh
import Mathlib.Data.Multiset.MapFold

/-!
# The order of the lines of a flowchart

Where every node is written with an id, a line says the same wherever it stands: it mentions its
nodes, and it has its edges. The lines of a flowchart can then be exchanged. What a node shows is told
by its declaration, so it stays as it is if there is one declaration at most; the nodes and the edges
only come in another order.

A text has a header when its first statement is one, and then the lines below the header are those
that can be exchanged. Such a text begins with no fence, so all of its lines are read.
-/

namespace DiagramBridge.Mermaid

namespace Flowchart

open Text

/-! ## Edges -/

/-- What an edge says. -/
structure Course where
  source : String
  target : String
  label : String
  lineStyle : LineStyle
  arrowEnd : Bool
  deriving DecidableEq

def courseOf (e : Edge) : Course :=
  ⟨e.source, e.target, e.label, e.lineStyle, e.arrowEnd⟩

/-- The id that is written in a part of a chain. -/
def partId? (part : List Char) : Option String :=
  (NodeText.read? part).map fun t => String.ofList t.id

/-- The edge between two parts of a chain, if there is a node in both. -/
def hopCourse? (source target : Option String) (hop : Hop) : Option Course :=
  source.bind fun source => target.map fun target =>
    ⟨source, target, String.ofList hop.label, hop.lineStyle, hop.arrowEnd⟩

/-- The edges of the hops behind a part of a chain. -/
def hopCourses (previous : Option String) : List (Hop × List Char) → List Course
  | [] => []
  | (hop, part) :: hops =>
    (hopCourse? previous (partId? part) hop).toList ++ hopCourses (partId? part) hops

def Statement.courses : Statement → List Course
  | .chain c => hopCourses (partId? c.first) c.hops
  | _ => []

/-- The edges that are written on the lines of a flowchart. -/
def courses (body : List (List Char)) : List Course :=
  body.flatMap fun line => (Statement.ofLine line).courses

/-- Every node is written with an id. -/
def HasNames (ts : List NodeText) : Prop :=
  ∀ t ∈ ts, t.id ≠ []

instance (ts : List NodeText) : Decidable (HasNames ts) :=
  inferInstanceAs (Decidable (∀ t ∈ ts, t.id ≠ []))

section

variable {p : Progress}

theorem edges_mention (id : String) (bracket : Option (Shape × List Char)) :
    (p.mention id bracket).graph.edges = p.graph.edges := by
  rw [Progress.mention]
  split
  · exact Graph.edges_mention ..
  · split
    · exact Graph.edges_mention ..
    · exact Graph.edges_mention ..

theorem graph_identify (t : NodeText) : (p.identify t).1.graph = p.graph := by
  rw [Progress.identify]
  split <;> rfl

/-- A node with an id is what the id says, whatever has been read before. -/
theorem readPart_of_hasNames {part : List Char} (h : HasNames (NodeText.read? part).toList) :
    (p.readPart part).1.graph.edges = p.graph.edges ∧ (p.readPart part).2 = partId? part := by
  rw [Progress.readPart, partId?]
  cases hpart : NodeText.read? part with
  | none => exact ⟨rfl, rfl⟩
  | some t =>
      have hne : t.id ≠ [] := h t (by simp [hpart])
      dsimp only
      rw [edges_mention, graph_identify]
      exact ⟨rfl, by rw [Progress.identify, if_neg (by simpa using hne)]; rfl⟩

theorem courses_join (source target : String) (hop : Hop) :
    (p.join source target hop).graph.edges.map courseOf =
      p.graph.edges.map courseOf ++
        [⟨source, target, String.ofList hop.label, hop.lineStyle, hop.arrowEnd⟩] := by
  rw [Progress.join]
  dsimp only
  rw [Graph.edges_link, List.map_append]
  rfl

theorem courses_readHops {previous : Option String} {hops : List (Hop × List Char)}
    (h : HasNames ((hops.map Prod.snd).filterMap NodeText.read?)) :
    (p.readHops previous hops).graph.edges.map courseOf =
      p.graph.edges.map courseOf ++ hopCourses previous hops := by
  induction hops generalizing p previous with
  | nil => exact (List.append_nil _).symm
  | cons hop hops ih =>
      rw [List.map_cons, filterMap_read?_cons] at h
      obtain ⟨hpart, hrest⟩ := List.forall_mem_append.1 h
      -- The part is mentioned before the hop is joined, and a mention adds no edge.
      obtain ⟨hedges, hcurrent⟩ := readPart_of_hasNames (p := p) hpart
      rw [Progress.readHops, hopCourses, ← List.append_assoc, ← hedges]
      dsimp only
      rw [ih hrest, hcurrent]
      congr 1
      cases previous with
      | none => exact (List.append_nil _).symm
      | some source =>
          cases partId? hop.2 with
          | none => exact (List.append_nil _).symm
          | some target => exact courses_join ..

theorem courses_readLine {line : List Char} (h : HasNames (Statement.ofLine line).nodeTexts) :
    (p.readLine line).graph.edges.map courseOf =
      p.graph.edges.map courseOf ++ (Statement.ofLine line).courses := by
  rw [Progress.readLine]
  cases hline : Statement.ofLine line with
  | skipped => exact (List.append_nil _).symm
  | opening id label => exact (List.append_nil _).symm
  | openingUnnamed => exact (List.append_nil _).symm
  | closing => exact (List.append_nil _).symm
  | chain c =>
      rw [hline, Statement.nodeTexts, Chain.nodeTexts, filterMap_read?_cons] at h
      obtain ⟨hfirst, hhops⟩ := List.forall_mem_append.1 h
      obtain ⟨hedges, hcurrent⟩ := readPart_of_hasNames (p := p) hfirst
      rw [Progress.step, Progress.readChain, Statement.courses, ← hedges]
      dsimp only
      rw [courses_readHops hhops, hcurrent]

theorem courses_foldl_readLine {body : List (List Char)} (h : HasNames (nodeTexts body)) :
    (body.foldl Progress.readLine p).graph.edges.map courseOf =
      p.graph.edges.map courseOf ++ courses body := by
  induction body generalizing p with
  | nil => exact (List.append_nil _).symm
  | cons line body ih =>
      rw [nodeTexts, List.flatMap_cons] at h
      obtain ⟨hline, hbody⟩ := List.forall_mem_append.1 h
      rw [List.foldl_cons, ih hbody, courses_readLine hline, courses, courses, List.flatMap_cons,
        List.append_assoc]

end

/-- The edges of a flowchart are those that are written on its lines. -/
theorem courses_read {body : List (List Char)} (h : HasNames (nodeTexts body)) :
    (read body).edges.map courseOf = courses body :=
  courses_foldl_readLine h

/-! ## The order of the lines -/

/-- The mention of a node that is written with an id. -/
def NodeText.occurrence (t : NodeText) : Occurrence :=
  ⟨String.ofList t.id, t.bracket⟩

theorem occurrences_foldl_add {ts : List NodeText} (h : HasNames ts) (s : Naming) :
    (ts.foldl Naming.add s).occurrences = s.occurrences ++ ts.map NodeText.occurrence := by
  induction ts generalizing s with
  | nil => exact (List.append_nil _).symm
  | cons t ts ih =>
      have hne : ¬ t.id.isEmpty = true := by simpa using h t (by simp)
      have hadd : (s.add t).occurrences = s.occurrences ++ [t.occurrence] := by
        rw [Naming.add, Naming.name, if_neg hne]
        rfl
      rw [List.foldl_cons, ih fun t' ht' => h t' (by simp [ht']), hadd, List.append_assoc,
        List.map_cons, List.singleton_append]

theorem occurrences_of_hasNames {body : List (List Char)} (h : HasNames (nodeTexts body)) :
    occurrences body = (nodeTexts body).map NodeText.occurrence :=
  occurrences_foldl_add h .start

/-- The label and the shape that a node shows. -/
def shown? (g : Graph) (id : String) : Option (String × Shape) :=
  (g.node? id).map fun n => (n.label, n.shape)

theorem node?_read (body : List (List Char)) (id : String) : (read body).node? id =
    if id ∈ (occurrences body).map Occurrence.id then some (declaredNode (occurrences body) id)
    else none := by
  split
  · next h =>
    have hmem : declaredNode (occurrences body) id ∈ (read body).nodes := by
      rw [nodes_read]
      exact List.mem_map_of_mem (List.mem_eraseDups.2 h)
    have hnode := Graph.node?_of_mem hmem
    rwa [id_declaredNode] at hnode
  · next h =>
    rw [Graph.node?, List.find?_eq_none]
    intro n hn hid
    rw [nodes_read] at hn
    obtain ⟨id', hid', rfl⟩ := List.mem_map.1 hn
    rw [beq_iff_eq, id_declaredNode] at hid
    exact h (hid ▸ List.mem_eraseDups.1 hid')

section

variable {body body' : List (List Char)} (hperm : body.Perm body')
  (hnames : HasNames (nodeTexts body))
include hperm hnames

theorem hasNames_of_perm : HasNames (nodeTexts body') := fun t ht =>
  hnames t ((hperm.flatMap_right _).mem_iff.2 ht)

theorem occurrences_perm : (occurrences body).Perm (occurrences body') := by
  rw [occurrences_of_hasNames hnames, occurrences_of_hasNames (hasNames_of_perm hperm hnames)]
  exact (hperm.flatMap_right _).map _

theorem courses_read_perm :
    ((read body).edges.map courseOf).Perm ((read body').edges.map courseOf) := by
  rw [courses_read hnames, courses_read (hasNames_of_perm hperm hnames)]
  exact hperm.flatMap_right _

theorem shown?_read_of_perm (honce : ((declarations (occurrences body)).map Prod.fst).Nodup) :
    shown? (read body) = shown? (read body') := by
  have hoccurrences := occurrences_perm hperm hnames
  have hlookup := lookup_eq_of_perm (hoccurrences.filterMap _) honce
  have hnode (id : String) : declaredNode (occurrences body) id =
      declaredNode (occurrences body') id := by
    rw [declaredNode, declaredNode, declarations, hlookup, declarations]
  -- Which ids are mentioned does not depend on the order either.
  funext id
  rw [shown?, node?_read, shown?, node?_read, hnode]
  simp only [(hoccurrences.map Occurrence.id).mem_iff]

end

end Flowchart

open Text

/-! ## Headers -/

/-- A line whose first character begins no header is none. -/
theorem headerType?_cons_eq_none {c : Char} {s : List Char} (hascii : c.toNat < 0x80)
    (hc : ∀ h ∈ headers, h.1.toList.head?.getD (asciiLower c) ≠ asciiLower c) :
    headerType? (c :: s) = none := by
  rw [headerType?, Option.map_eq_none_iff, List.find?_eq_none]
  intro h hh hstart
  rw [lower, lowerAfter, if_pos hascii, startsWith_iff] at hstart
  obtain ⟨t, ht⟩ := hstart
  apply hc h hh
  cases hword : h.1.toList with
  | nil => rfl
  | cons d w =>
      rw [hword, List.cons_append] at ht
      exact (List.cons.inj ht).1

/-- A header says something and begins no fence. -/
theorem isContent_of_headerType? {s : List Char} {type : DiagramType}
    (h : headerType? s = some type) : isContent s = true ∧ s.head? ≠ some '\x60' := by
  cases s with
  | nil =>
      have hempty : headerType? [] = none := by decide
      rw [hempty] at h
      exact absurd h (by simp)
  | cons c s =>
      have hne {d : Char} (hascii : d.toNat < 0x80)
          (hd : ∀ h ∈ headers, h.1.toList.head?.getD (asciiLower d) ≠ asciiLower d) : c ≠ d := by
        rintro rfl
        rw [headerType?_cons_eq_none hascii hd] at h
        exact absurd h (by simp)
      refine ⟨?_, fun hhead => hne (by decide) (by decide) (Option.some.inj hhead)⟩
      have hcomment : startsWith "%%" (c :: s) = false := by
        rw [← Bool.not_eq_true, startsWith_iff]
        rintro ⟨t, ht⟩
        exact hne (by decide) (by decide) (List.cons.inj ht).1.symm
      rw [isContent, hcomment]
      rfl

/-! ## Texts -/

/-- The lines of the flowchart that a text is read as, if it is read as one. -/
def flowchartBody? (text : String) : Option (List (List Char)) :=
  match statements text.toList with
  | [] => none
  | first :: rest =>
    match headerType? first with
    | some .flowchart => some rest
    | some _ => none
    | none => some (first :: rest)

/-- What a diagram shows when the order of its nodes and edges does not count. -/
structure Content where
  shown : String → Option (String × Shape)
  courses : Multiset Flowchart.Course

def Diagram.content (d : Diagram) : Content :=
  ⟨Flowchart.shown? d.graph, (d.graph.edges.map Flowchart.courseOf : List Flowchart.Course)⟩

/-- A text with a header of flowcharts behind some lines that say nothing. -/
structure HasLines (text : String) (front : List (List Char)) (header : List Char)
    (rest : List (List Char)) : Prop where
  lines_eq : lines text.toList = front ++ header :: rest
  front : ∀ line ∈ front, isContent (statement line) = false
  header : headerType? (statement header) = some .flowchart

section

variable {text : String} {body : List (List Char)}

theorem read_of_flowchartBody? (h : flowchartBody? text = some body) : read text =
    if Flowchart.occurrences body = [] then .error .noNodesInMermaid
    else .ok ⟨.flowchart, Flowchart.read body⟩ := by
  have hnodes : (Flowchart.read body).nodes.isEmpty = true ↔ Flowchart.occurrences body = [] := by
    rw [List.isEmpty_iff, Flowchart.nodes_read, Flowchart.declaredNodes_eq_nil_iff]
  have hdiagram : ∃ first rest, statements text.toList = first :: rest ∧
      ofStatements first rest = ⟨.flowchart, Flowchart.read body⟩ := by
    rw [flowchartBody?] at h
    split at h
    · exact absurd h (by simp)
    · next first rest hstatements =>
      refine ⟨first, rest, hstatements, ?_⟩
      rw [ofStatements]
      split at h
      · next htype => rw [htype, ← Option.some.inj h]; rfl
      · exact absurd h (by simp)
      · next htype => rw [htype, ← Option.some.inj h]
  obtain ⟨first, rest, hstatements, hdiagram⟩ := hdiagram
  rw [read, hstatements]
  dsimp only
  rw [hdiagram]
  exact if_congr hnodes rfl rfl

/-- A diagram that is read as a flowchart is the flowchart of some lines. -/
theorem exists_flowchartBody? {d : Diagram} (hread : read text = .ok d)
    (htype : d.type = .flowchart) :
    ∃ body, flowchartBody? text = some body ∧ d.graph = Flowchart.read body := by
  rw [read] at hread
  split at hread
  · exact absurd hread (by simp)
  · next first rest hstatements =>
    dsimp only at hread
    split at hread
    · exact absurd hread (by simp)
    · obtain rfl := Except.ok.inj hread
      rw [flowchartBody?, hstatements]
      rw [ofStatements] at htype ⊢
      dsimp only
      cases hheader : headerType? first with
      | none => exact ⟨_, rfl, rfl⟩
      | some type =>
          rw [hheader] at htype
          obtain rfl : type = .flowchart := htype
          exact ⟨_, rfl, rfl⟩

end

section

variable {text : String} {front rest : List (List Char)} {header : List Char}

theorem HasLines.flowchartBody?_eq (h : HasLines text front header rest) :
    flowchartBody? text = some (statementsOf rest) := by
  obtain ⟨hcontent, hfence⟩ := isContent_of_headerType? h.header
  have hfront : statementsOf front = [] := by
    rw [statementsOf, List.filter_map, List.map_eq_nil_iff, List.filter_eq_nil_iff]
    exact fun line hline => by simpa using h.front line hline
  have hstatements : statements text.toList = statement header :: statementsOf rest := by
    refine statements_of_statementsOf ?_ hfence
    rw [h.lines_eq, statementsOf_append, hfront, List.nil_append, statementsOf, List.map_cons,
      List.filter_cons, if_pos hcontent, statementsOf]
  rw [flowchartBody?, hstatements]
  dsimp only
  rw [h.header]

end

/-- The lines below a header are read as they stand if they are statements. -/
theorem flowchartBody?_unlines {ls : List (List Char)} (hne : ls ≠ [])
    (h : ∀ s ∈ ls, IsStatement s) :
    flowchartBody? (String.ofList ("flowchart TD\n".toList ++ unlines ls)) = some ls := by
  have hlines : HasLines (String.ofList ("flowchart TD\n".toList ++ unlines ls)) []
      "flowchart TD".toList ls := by
    refine ⟨?_, by simp, by decide +kernel⟩
    have hheader : "flowchart TD\n".toList ++ unlines ls =
        "flowchart TD".toList ++ '\n' :: unlines ls := by simp
    rw [String.toList_ofList, hheader, lines_append_lineFeed (by decide),
      lines_unlines (fun s hs => (h s hs).oneLine) hne]
    rfl
  rw [hlines.flowchartBody?_eq, statementsOf_of_isStatement h]

/-- **The first declaration wins.** A flowchart has the nodes that are mentioned, in the order of
their first mentions, each as its first declaration shows it and as a rectangle with its id if there
is none; without a mention there is no diagram. So if all nodes are written with ids and none is
declared twice, the lines below the header can be read in any order. -/
theorem read_declaredNodes_and_read_perm :
    (∀ text body, flowchartBody? text = some body →
      (read text).map (fun d => (d.type, d.graph.nodes)) =
        if Flowchart.occurrences body = [] then .error .noNodesInMermaid
        else .ok (.flowchart, Flowchart.declaredNodes (Flowchart.occurrences body))) ∧
    ∀ text text' front header rest rest', HasLines text front header rest →
      HasLines text' front header rest' → rest.Perm rest' →
      Flowchart.HasNames (Flowchart.nodeTexts (statementsOf rest)) →
      ((Flowchart.declarations (Flowchart.occurrences (statementsOf rest))).map Prod.fst).Nodup →
      (read text).map Diagram.content = (read text').map Diagram.content := by
  refine ⟨fun text body h => ?_, ?_⟩
  · rw [read_of_flowchartBody? h]
    split
    · rfl
    · rw [← Flowchart.nodes_read]
      rfl
  · intro text text' front header rest rest' h h' hrest hnames honce
    -- Lines without a statement are left out on both sides, so the statements are exchanged as well.
    have hperm : (statementsOf rest).Perm (statementsOf rest') := (hrest.map _).filter _
    have hempty : Flowchart.occurrences (statementsOf rest) = [] ↔
        Flowchart.occurrences (statementsOf rest') = [] := by
      rw [← List.length_eq_zero_iff, (Flowchart.occurrences_perm hperm hnames).length_eq,
        List.length_eq_zero_iff]
    have hcontent : Diagram.content ⟨.flowchart, Flowchart.read (statementsOf rest)⟩ =
        Diagram.content ⟨.flowchart, Flowchart.read (statementsOf rest')⟩ := by
      rw [Diagram.content, Diagram.content, Flowchart.shown?_read_of_perm hperm hnames honce,
        Multiset.coe_eq_coe.2 (Flowchart.courses_read_perm hperm hnames)]
    rw [read_of_flowchartBody? h.flowchartBody?_eq, read_of_flowchartBody? h'.flowchartBody?_eq]
    by_cases hnil : Flowchart.occurrences (statementsOf rest) = []
    · rw [if_pos hnil, if_pos (hempty.1 hnil)]
    · rw [if_neg hnil, if_neg (mt hempty.2 hnil)]
      exact congrArg Except.ok hcontent

/-- Both declarations of this flowchart come behind other mentions, and both may come before them. -/
theorem read_declaredNodes_and_read_perm_late :
    (read "flowchart TD\nA --> B\nB[Stop]\nA(Start) -- go --> C").map
        (fun d => (d.type, d.graph.nodes)) =
      .ok (.flowchart, [{ id := "A", label := "Start", shape := .rounded },
        { id := "B", label := "Stop" }, { id := "C", label := "C" }]) ∧
    (read "flowchart TD\nA --> B\nB[Stop]\nA(Start) -- go --> C").map Diagram.content =
      (read "flowchart TD\nA(Start) -- go --> C\nB[Stop]\nA --> B").map Diagram.content := by
  refine ⟨(read_declaredNodes_and_read_perm.1 _
    ["A --> B".toList, "B[Stop]".toList, "A(Start) -- go --> C".toList] ?_).trans ?_,
    read_declaredNodes_and_read_perm.2 _ _ [] "flowchart TD".toList
      ["A --> B".toList, "B[Stop]".toList, "A(Start) -- go --> C".toList]
      ["A(Start) -- go --> C".toList, "B[Stop]".toList, "A --> B".toList] ⟨?_, ?_, ?_⟩ ⟨?_, ?_, ?_⟩
      ?_ ?_ ?_⟩
  all_goals decide +kernel

end DiagramBridge.Mermaid
