import DiagramBridge.Mermaid.Reader
import DiagramBridge.Mermaid.Writer
import DiagramBridge.Proofs.Mermaid.ClassDiagram.WrittenLine
import DiagramBridge.Proofs.Mermaid.Identifier
import DiagramBridge.Proofs.Mermaid.Run

/-!
# Written class diagrams are read back

A declaration appends a class without members. If it opens a body, the lines up to the brace add the
members to that class, which is the last one. A relation between two classes that exist appends one
edge. A body is open only inside the lines of one class. Of members that are lines of a body and of
edge labels that keep their ends nothing else is asked; a label of a class may be anything.
-/

namespace DiagramBridge.Mermaid.ClassDiagram

open Drawio Text

/-- No body is open. -/
def IsOutside (p : Progress) : Prop :=
  p.body = none

/-- How the class of written lines is read if its texts stay as they are. -/
def classOfText (id : String) (n : Node) : Node where
  id := id
  label := n.label
  shape := .classBox
  kind := .classLike
  members := n.members

/-- The edge that is shown for an edge behind the given number of edges. -/
def shownRelation (id : String → String) (i : Nat) (e : Edge) : Edge where
  id := "edge_" ++ decimalString i
  source := id e.source
  target := id e.target
  label := onChars collapse e.label
  lineStyle := (edgeRelation e).lineStyle
  relation := some (edgeRelation e)

/-- How the edge of a written line is read if its label stays as it is. -/
def relationOfText (id : String → String) (i : Nat) (e : Edge) : Edge where
  id := "edge_" ++ decimalString i
  source := id e.source
  target := id e.target
  label := e.label
  lineStyle := (edgeRelation e).lineStyle
  relation := some (edgeRelation e)

/-! ## Classes -/

/-- The declaration of a new class appends it without members. -/
theorem readLine_declarationStatement {p : Progress} {id : String} {n : Node} (hp : IsOutside p)
    (hne : id.toList ≠ []) (hid : ∀ c ∈ id.toList, isWord c = true) (hn : IsShown n)
    (hnew : p.graph.hasNode id = false) :
    (p.readLine (declarationStatement id n)).body =
        (if n.members.isEmpty then none else some id) ∧
      (p.readLine (declarationStatement id n)).graph.nodes =
        p.graph.nodes ++ [{ classOfText id n with members := [] }] ∧
      (p.readLine (declarationStatement id n)).graph.edges = p.graph.edges := by
  have hbody : p.body = none := hp
  have hline : p.readLine (declarationStatement id n) =
      { graph := mentionClass p.graph id (some n.label)
        body := if n.members.isEmpty then none else some id } := by
    rw [Progress.readLine, hbody]
    simp only [ofLine?_declaration hne hid hn, Progress.step, String.ofList_toList]
    cases n.members <;> rfl
  rw [hline]
  exact ⟨rfl, Graph.nodes_mention_of_new hnew, Graph.edges_mention _ _⟩

/-- The lines of members add these members to the class whose body is open. -/
theorem readLines_members {ms : List String} (hms : ∀ m ∈ ms, IsBodyLine m.toList)
    {ns : List Node} {n : Node} {p : Progress} (hbody : p.body = some n.id)
    (hnodes : p.graph.nodes = ns ++ [n]) :
    ((ms.map String.toList).foldl Progress.readLine p).body = some n.id ∧
      ((ms.map String.toList).foldl Progress.readLine p).graph.nodes =
        ns ++ [{ n with members := n.members ++ ms }] ∧
      ((ms.map String.toList).foldl Progress.readLine p).graph.edges = p.graph.edges := by
  -- The node generalizes, since each member changes the class that stays the last one.
  induction ms generalizing n p with
  | nil =>
      rw [List.append_nil]
      exact ⟨hbody, hnodes, rfl⟩
  | cons m ms ih =>
      have hclosing : startsWith "\x7d" m.toList = false := by
        rw [← Bool.not_eq_true, startsWith_iff]
        rintro ⟨t, ht⟩
        have hstops := (hms m (by simp)).closing '\x7d' (by rw [← ht]; rfl)
        exact absurd hstops (by simp)
      have hline : p.readLine m.toList = { p with graph := p.graph.addMember n.id m } := by
        rw [Progress.readLine, hbody]
        simp only [hclosing, Bool.false_eq_true, if_false, String.ofList_toList]
      have hnodes' : (p.readLine m.toList).graph.nodes =
          ns ++ [{ n with members := n.members ++ [m] }] := by
        rw [hline]
        exact Graph.nodes_addMember_last hnodes m
      have hrest := ih (fun k hk => hms k (by simp [hk]))
        (n := { n with members := n.members ++ [m] }) (by rw [hline]; exact hbody) hnodes'
      rw [List.map_cons, List.foldl_cons]
      refine ⟨hrest.1, ?_, ?_⟩
      · rw [hrest.2.1, List.append_assoc, List.singleton_append]
      · rw [hrest.2.2, hline]
        rfl

/-- The lines of a new class append it with its members, and no body stays open. -/
theorem appends_classStatements {p : Progress} {id : String} {n : Node} (hp : IsOutside p)
    (hne : id.toList ≠ []) (hid : ∀ c ∈ id.toList, isWord c = true) (hn : IsShown n)
    (hnew : p.graph.hasNode id = false) :
    Appends Progress.graph IsOutside p ((classStatements id n).foldl Progress.readLine p)
      [classOfText id n] [] := by
  obtain ⟨hbody, hnodes, hedges⟩ := readLine_declarationStatement hp hne hid hn hnew
  rw [classStatements, List.foldl_cons]
  by_cases hmembers : n.members = []
  · rw [if_pos (by simpa using hmembers)] at hbody ⊢
    have hclass : { classOfText id n with members := [] } = classOfText id n := by
      rw [classOfText, hmembers]
    rw [hclass] at hnodes
    exact ⟨hbody, hnodes, by rw [List.append_nil]; exact hedges⟩
  · rw [if_neg (by simpa using hmembers)] at hbody ⊢
    obtain ⟨hbody', hnodes', hedges'⟩ := readLines_members (fun m hm => (hn.members m hm).2)
      (n := { classOfText id n with members := [] }) hbody hnodes
    rw [List.foldl_append, List.foldl_cons, List.foldl_nil, Progress.readLine, hbody']
    exact ⟨rfl, hnodes', by rw [List.append_nil]; exact hedges'.trans hedges⟩

/-! ## Relations -/

/-- The statement of an edge appends it, with its label on one line. -/
theorem appends_edgeStatement {p : Progress} {id : String → String} {e : Edge}
    (hp : IsOutside p) (he : HasWordEnds p.graph id e) :
    Appends Progress.graph IsOutside p
      (p.readLine (edgeStatement (id e.source) (id e.target) e)) []
      [shownRelation id p.graph.edges.length e] := by
  have hbody : p.body = none := hp
  have hline : p.readLine (edgeStatement (id e.source) (id e.target) e) =
      p.step (.relation (id e.source).toList (id e.target).toList (collapse e.label.toList)
        (writtenSymbol (edgeRelation e))) := by
    rw [Progress.readLine, hbody, edgeStatement]
    simp only [ofLine?_relation (edgeRelation e) he.source he.wordSource he.target he.wordTarget
      (isReadAsLabel_edgeMark e)]
  have hmention : ∀ i, p.graph.hasNode i = true → mentionClass p.graph i none = p.graph :=
    fun i hi => Graph.nodes_mention_of_bare hi rfl
  rw [hline, Progress.step]
  simp only [String.ofList_toList, hmention _ he.hasSource, hmention _ he.hasTarget]
  exact ⟨hp, (List.append_nil _).symm, rfl⟩

/-! ## Whole texts -/

/-- The statements of a written class diagram below its header. -/
def body (g : Graph) : List (List Char) :=
  g.nodes.flatMap (fun n => classStatements (idOf g n.id) (shownClass (idOf g n.id) n)) ++
    g.validEdges.map fun e => edgeStatement (idOf g e.source) (idOf g e.target) e

/-- A graph whose members can stand in a body, and whose edge labels keep their ends. -/
structure HasBodyLines (g : Graph) : Prop where
  members : ∀ n ∈ g.nodes, ∀ m ∈ n.members, IsBodyLine (collapse m.toList)
  labels : ∀ e ∈ g.validEdges, Stops (· == ';') (collapse e.label.toList).reverse

/-- The graph of a written class diagram. -/
theorem read_body_of_hasBodyLines {g : Graph} (h : HasBodyLines g) :
    (read (body g)).nodes = g.nodes.map (fun n => shownClass (idOf g n.id) n) ∧
      (read (body g)).edges = g.validEdges.mapIdx (shownRelation (idOf g)) := by
  have hclass : ∀ p : Progress, ∀ n ∈ g.nodes, IsOutside p →
      p.graph.hasNode (idOf g n.id) = false → Appends Progress.graph IsOutside p
        ((classStatements (idOf g n.id) (shownClass (idOf g n.id) n)).foldl Progress.readLine p)
        [shownClass (idOf g n.id) n] [] := by
    intro p n hn hp hnew
    have hid : n.id ∈ g.nodeIds := List.mem_map_of_mem hn
    have hne : (idOf g n.id).toList ≠ [] := idOf_toList_ne_nil hid
    have hword : ∀ c ∈ (idOf g n.id).toList, isWord c = true := fun c => isWord_of_mem_idOf hid
    exact appends_classStatements hp hne hword (isShown_shownClass hne hword (h.members n hn)) hnew
  rw [read, body]
  exact nodes_edges_written hclass
    (fun p e he hp hnodes => appends_edgeStatement hp (hasWordEnds (fun _ => rfl) hnodes he))
    (nodup_map_idOf g) rfl rfl

/-! ## Texts that stay as they are -/

/-- A graph that a class diagram can hold: its texts can stand on lines of their own. -/
structure IsPlainClasses (g : Graph) : Prop where
  classes : ∀ n ∈ g.nodes, IsPlainClass n
  labels : ∀ e ∈ g.validEdges, IsPlainLabel e.label.toList

theorem IsPlainClasses.hasBodyLines {g : Graph} (h : IsPlainClasses g) : HasBodyLines g where
  members n hn m hm := ((h.classes n hn).members m hm).isBodyLine
  labels e he := by
    rw [(h.labels e he).normal.collapsed]
    exact (h.labels e he).semicolon

theorem shownClass_of_isPlainClass {id : String} {n : Node} (h : IsPlainClass n) :
    shownClass id n = classOfText id n := by
  have hne : n.label.toList ≠ [] := by simpa using h.labelled
  have hmembers : n.members.map (onChars collapse) = n.members := by
    conv_rhs => rw [← List.map_id n.members]
    exact List.map_congr_left fun m hm => onChars_collapse_of_isNormalLine (h.members m hm).normal
  rw [shownClass, classOfText, hmembers, h.label.collapsed, if_neg hne,
    unquotable_of_not_mem h.label.noQuote, String.ofList_toList]

theorem shownRelation_of_isPlainLabel {id : String → String} {e : Edge}
    (h : IsPlainLabel e.label.toList) (i : Nat) : shownRelation id i e = relationOfText id i e := by
  rw [shownRelation, relationOfText, onChars_collapse_of_isNormalLine h.normal]

/-- The graph of a class diagram whose texts stay as they are. -/
theorem read_body {g : Graph} (h : IsPlainClasses g) :
    (read (body g)).nodes = g.nodes.map (fun n => classOfText (idOf g n.id) n) ∧
      (read (body g)).edges = g.validEdges.mapIdx (relationOfText (idOf g)) := by
  obtain ⟨hnodes, hedges⟩ := read_body_of_hasBodyLines h.hasBodyLines
  constructor
  · rw [hnodes]
    exact List.map_congr_left fun n hn => shownClass_of_isPlainClass (h.classes n hn)
  · rw [hedges, List.mapIdx_eq_mapIdx_iff]
    exact fun i hi => shownRelation_of_isPlainLabel (h.labels _ (List.getElem_mem hi)) i

end DiagramBridge.Mermaid.ClassDiagram
