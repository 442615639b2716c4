import DiagramBridge.Mermaid.Writer
import DiagramBridge.Proofs.Diagram.Graph
import DiagramBridge.Proofs.Mermaid.Brackets
import DiagramBridge.Proofs.Mermaid.Identifier
import DiagramBridge.Proofs.Mermaid.LabelText

/-!
# Written texts pass the check

What is written begins with the name of its type. It has brackets around the label of a node and
around the members of a class, and they are nested, so there is nothing to find fault with where no
text that is shown has a bracket of its own. A flowchart shows the id of a node that has no label.

Flags are left out in flowcharts: the left side of a flag is no bracket, and its right side is one.
-/

namespace DiagramBridge

open Mermaid Text

/-- No label of a node or of an edge has a bracket in it, and no member of a class. -/
structure Graph.HasPlainTexts (g : Graph) : Prop where
  labels : ∀ n ∈ g.nodes, IsUnbracketed n.label.toList
  members : ∀ n ∈ g.nodes, ∀ m ∈ n.members, IsUnbracketed m.toList
  edgeLabels : ∀ e ∈ g.edges, IsUnbracketed e.label.toList

/-- A flowchart shows the id of the node, since there is nothing else to show. -/
def Node.ShowsId (n : Node) : Prop :=
  n.label = "" ∧ ¬ (n.kind = .classLike ∧ n.members ≠ [])

instance (n : Node) : Decidable n.ShowsId :=
  inferInstanceAs (Decidable (_ ∧ _))

/-- No node is a flag, and no id that is shown has a bracket in it. -/
structure Graph.HasPlainShapes (g : Graph) : Prop where
  shapes : ∀ n ∈ g.nodes, n.shape ≠ .asymmetric
  ids : ∀ n ∈ g.nodes, n.ShowsId → IsUnbracketed n.id.toList

namespace Mermaid

/-! ## Characters -/

theorem isBracket_of_isWord {c : Char} (h : isWord c = true) : isBracket c = false := by
  rw [isBracket, List.any_eq_false]
  intro b _ hb
  have hwords : isWord b.opener = false ∧ isWord b.closer = false := by
    cases b <;> decide
  rw [Bool.or_eq_true, beq_iff_eq, beq_iff_eq] at hb
  rcases hb with rfl | rfl
  · exact ne_of_isWord h hwords.1 rfl
  · exact ne_of_isWord h hwords.2 rfl

theorem isUnbracketed_nil : IsUnbracketed [] :=
  fun _ hc => absurd hc List.not_mem_nil

theorem isUnbracketed_append {s t : List Char} (hs : IsUnbracketed s) (ht : IsUnbracketed t) :
    IsUnbracketed (s ++ t) := by
  intro c hc
  rcases List.mem_append.1 hc with hc | hc
  · exact hs c hc
  · exact ht c hc

theorem isUnbracketed_cons {c : Char} {s : List Char} (hc : isBracket c = false)
    (hs : IsUnbracketed s) : IsUnbracketed (c :: s) :=
  List.forall_mem_cons.2 ⟨hc, hs⟩

theorem isUnbracketed_collapse {s : List Char} (h : IsUnbracketed s) :
    IsUnbracketed (collapse s) := by
  intro c hc
  rcases mem_collapse hc with rfl | ⟨-, hc⟩
  · decide
  · exact h c hc

theorem isUnbracketed_unlines {ls : List (List Char)} (h : ∀ l ∈ ls, IsUnbracketed l) :
    IsUnbracketed (unlines ls) := by
  intro c hc
  rcases mem_intercalate hc with hc | ⟨l, hl, hc⟩
  · rw [List.mem_singleton.1 hc]
    decide
  · exact h l hl c hc

/-- The tags and names that stand for characters of a label have no brackets. -/
theorem isUnbracketed_labelText {s : List Char} (h : IsUnbracketed s) :
    IsUnbracketed (labelText s) := by
  intro c hc
  by_cases hmark : c ∈ "<br/>#quot;".toList ++ markChars
  · have hmarks : ∀ d ∈ "<br/>#quot;".toList ++ markChars, isBracket d = false := by decide
    exact hmarks c hmark
  · rcases mem_labelText hc with rfl | hc
    · decide
    · exact h c ((mem_encode_iff hmark).1 hc)

variable {g : Graph} {id : String}

theorem isUnbracketed_idOf (h : id ∈ g.nodeIds) : IsUnbracketed (lookupId (idMap g) id).toList :=
  fun _ hc => isBracket_of_isWord (isWord_of_mem_idOf h hc)

/-! ## Lines -/

/-- Lines with a line feed behind each. -/
theorem unlines_append_lineFeed {ls : List (List Char)} (h : ls ≠ []) :
    unlines ls ++ ['\n'] = ls.flatMap (· ++ ['\n']) := by
  induction ls with
  | nil => exact absurd rfl h
  | cons l ls ih =>
      cases ls with
      | nil => simp [unlines]
      | cons l' ls =>
          have hunlines : unlines (l :: l' :: ls) = l ++ '\n' :: unlines (l' :: ls) := rfl
          rw [hunlines, List.flatMap_cons, ← ih (by simp)]
          simp

theorem IsBalanced.line {l : List Char} (h : IsBalanced l) : IsBalanced (l ++ ['\n']) :=
  h.append (.of_isUnbracketed (by decide))

/-- A header that begins with the name of a type. -/
structure IsHeader (header : List Char) : Prop where
  oneLine : '\n' ∉ header
  notBlank : (trim header).isEmpty = false
  known : knownTypes.any (startsWith · (lower (trim header))) = true
  unbracketed : IsUnbracketed header

/-- A text has no issues if it begins with the name of a type and its brackets are nested. -/
theorem check_of_isHeader {header : List Char} {ls : List (List Char)} (hheader : IsHeader header)
    (h : IsBalanced (ls.flatMap (· ++ ['\n']))) :
    check (String.ofList (unlines (header :: ls) ++ ['\n'])) = [] := by
  rw [unlines_append_lineFeed (by simp), List.flatMap_cons]
  have hfirst : (lines ((header ++ ['\n']) ++ ls.flatMap (· ++ ['\n']))).headD [] = header := by
    rw [List.append_assoc, List.singleton_append, lines_append_lineFeed hheader.oneLine,
      List.headD_cons]
  have hbalanced : IsBalanced ((header ++ ['\n']) ++ ls.flatMap (· ++ ['\n'])) :=
    (IsBalanced.of_isUnbracketed hheader.unbracketed).line.append h
  rw [check]
  simp only [String.toList_ofList, hfirst, hheader.notBlank, hheader.known,
    bracketIssues_of_isBalanced hbalanced]
  rfl

/-- A text of a header, the lines of the nodes and those of the edges. The lines are made of ids that
have no brackets, and so is the line of an edge whose label has none. -/
theorem check_of_parts {header : List Char} (nodeLines : String → Node → List (List Char))
    (edgeLine : String → String → Edge → List Char) (hheader : IsHeader header)
    (htexts : g.HasPlainTexts)
    (hnodes : ∀ n ∈ g.nodes, ∀ {id : String}, IsUnbracketed id.toList →
      IsBalanced ((nodeLines id n).flatMap (· ++ ['\n'])))
    (hedges : ∀ {source target : String} {e : Edge}, IsUnbracketed source.toList →
      IsUnbracketed target.toList → IsUnbracketed e.label.toList →
        IsUnbracketed (edgeLine source target e)) :
    check (String.ofList (unlines (header ::
      g.nodes.flatMap (fun n => nodeLines (lookupId (idMap g) n.id) n) ++ g.validEdges.map fun e =>
        edgeLine (lookupId (idMap g) e.source) (lookupId (idMap g) e.target) e) ++ ['\n'])) = [] := by
  rw [List.cons_append]
  apply check_of_isHeader hheader
  rw [List.flatMap_append, List.flatMap_assoc, List.flatMap_map]
  apply IsBalanced.append
  · apply IsBalanced.flatMap
    intro n hn
    exact hnodes n hn (isUnbracketed_idOf (List.mem_map_of_mem hn))
  · apply IsBalanced.flatMap
    intro e he
    obtain ⟨hmem, hsource, htarget⟩ := Graph.mem_validEdges.1 he
    apply IsBalanced.line
    apply IsBalanced.of_isUnbracketed
    exact hedges (isUnbracketed_idOf hsource) (isUnbracketed_idOf htarget)
      (htexts.edgeLabels e hmem)

/-! ## Flowcharts -/

namespace Flowchart

/-- The brackets of a shape around a text are nested, unless the shape is a flag. -/
theorem isBalanced_brackets {shape : Shape} (hshape : shape ≠ .asymmetric) {s : List Char}
    (h : IsBalanced s) :
    IsBalanced ((brackets shape).1.toList ++ s ++ (brackets shape).2.toList) := by
  cases shape with
  | rectangle => exact h.enclose .square
  | classBox => exact h.enclose .square
  | subgraph => exact h.enclose .square
  | rounded => exact h.enclose .round
  | stadium => exact h.enclose_enclose .round .square
  | subroutine => exact h.enclose_enclose .square .square
  | cylinder => exact h.enclose_enclose .square .round
  | hexagon => exact h.enclose_enclose .curly .curly
  | diamond => exact h.enclose .curly
  | circle => exact h.enclose_enclose .round .round
  | parallelogram =>
      have hslashes : IsBalanced ('/' :: (s ++ ['/'])) :=
        .cons (by decide) (h.append (.of_isUnbracketed (by decide)))
      have hnested := hslashes.enclose .square
      rwa [← List.cons_append, ← List.cons_append, List.append_assoc] at hnested
  | asymmetric => exact absurd rfl hshape

/-- A node shows its label, the members of a class below it, or its id. -/
theorem isUnbracketed_nodeLabel {n : Node} (hlabel : IsUnbracketed n.label.toList)
    (hmembers : ∀ m ∈ n.members, IsUnbracketed m.toList)
    (hid : n.ShowsId → IsUnbracketed n.id.toList) : IsUnbracketed (nodeLabel n) := by
  rw [nodeLabel]
  split_ifs with hclass hempty
  · apply isUnbracketed_unlines
    rw [List.forall_mem_cons, List.forall_mem_map]
    exact ⟨hlabel, hmembers⟩
  · exact hid ⟨hempty, hclass⟩
  · exact hlabel

theorem isBalanced_nodeLine {id : String} {n : Node} (hid : IsUnbracketed id.toList)
    (hshape : n.shape ≠ .asymmetric) (hlabel : IsUnbracketed (nodeLabel n)) :
    IsBalanced (nodeLine id n) := by
  have hbrackets := isBalanced_brackets hshape (.of_isUnbracketed (isUnbracketed_labelText hlabel))
  have hfront : IsUnbracketed (indent ++ id.toList) := isUnbracketed_append (by decide) hid
  rw [nodeLine, List.append_assoc, List.append_assoc, ← List.append_assoc (brackets n.shape).1.toList]
  exact (IsBalanced.of_isUnbracketed hfront).append hbrackets

theorem isUnbracketed_arrowText {e : Edge} (h : IsUnbracketed e.label.toList) :
    IsUnbracketed (arrowText e) := by
  apply isUnbracketed_append
  · cases e.lineStyle <;> cases e.arrowEnd <;> decide
  · split_ifs
    · exact isUnbracketed_nil
    · apply isUnbracketed_append _ (by decide)
      exact isUnbracketed_cons (by decide) (isUnbracketed_labelText h)

theorem isUnbracketed_edgeLine {source target : String} {e : Edge}
    (hsource : IsUnbracketed source.toList) (htarget : IsUnbracketed target.toList)
    (hlabel : IsUnbracketed e.label.toList) : IsUnbracketed (edgeLine source target e) := by
  apply isUnbracketed_append
  · apply isUnbracketed_append (isUnbracketed_append (by decide) hsource)
    exact isUnbracketed_cons (by decide) (isUnbracketed_arrowText hlabel)
  · exact isUnbracketed_cons (by decide) htarget

theorem isHeader (direction : Direction) :
    IsHeader ("flowchart ".toList ++ direction.name.toList) := by
  cases direction <;> exact ⟨by decide, by decide, by decide +kernel, by decide⟩

theorem check_write (direction : Direction) (htexts : g.HasPlainTexts)
    (hshapes : g.HasPlainShapes) : check (Mermaid.write g .flowchart direction) = [] := by
  rw [Mermaid.write, writeLines, write, List.map_eq_flatMap]
  apply check_of_parts (fun id n => [nodeLine id n]) edgeLine (isHeader direction) htexts
  · intro n hn id hid
    rw [List.flatMap_singleton]
    apply IsBalanced.line
    apply isBalanced_nodeLine hid (hshapes.shapes n hn)
    exact isUnbracketed_nodeLabel (htexts.labels n hn) (htexts.members n hn) (hshapes.ids n hn)
  · exact isUnbracketed_edgeLine

end Flowchart

/-! ## Sequence diagrams -/

namespace Sequence

theorem isUnbracketed_participantLine {id : String} {n : Node} (hid : IsUnbracketed id.toList)
    (hlabel : IsUnbracketed n.label.toList) : IsUnbracketed (participantLine id n) := by
  have hkeyword : IsUnbracketed (if n.shape = .circle then "actor" else "participant").toList := by
    split_ifs <;> decide
  apply isUnbracketed_append
  · apply isUnbracketed_append (isUnbracketed_append (by decide) hkeyword)
    exact isUnbracketed_cons (by decide) hid
  · split_ifs
    · exact isUnbracketed_nil
    · exact isUnbracketed_append (by decide) (isUnbracketed_collapse hlabel)

theorem isUnbracketed_messageLine {source target : String} {e : Edge}
    (hsource : IsUnbracketed source.toList) (htarget : IsUnbracketed target.toList)
    (hlabel : IsUnbracketed e.label.toList) : IsUnbracketed (messageLine source target e) := by
  have htext : IsUnbracketed (messageText e) := by
    rw [messageText]
    split_ifs
    · decide
    · exact isUnbracketed_collapse hlabel
  have harrow : IsUnbracketed (messageArrow e.lineStyle).toList := by
    cases e.lineStyle <;> decide
  apply isUnbracketed_append _ htext
  apply isUnbracketed_append _ (by decide)
  apply isUnbracketed_append _ htarget
  exact isUnbracketed_append (isUnbracketed_append (by decide) hsource) harrow

theorem check_write (direction : Direction) (htexts : g.HasPlainTexts) :
    check (Mermaid.write g .sequence direction) = [] := by
  rw [Mermaid.write, writeLines, write, List.map_eq_flatMap]
  apply check_of_parts (fun id n => [participantLine id n]) messageLine
    ⟨by decide, by decide, by decide +kernel, by decide⟩ htexts
  · intro n hn id hid
    rw [List.flatMap_singleton]
    apply IsBalanced.line
    apply IsBalanced.of_isUnbracketed
    exact isUnbracketed_participantLine hid (htexts.labels n hn)
  · exact isUnbracketed_messageLine

end Sequence

/-! ## Class diagrams -/

namespace ClassDiagram

theorem isUnbracketed_unquotable {s : List Char} (h : IsUnbracketed s) :
    IsUnbracketed (unquotable s) := by
  intro c hc
  obtain ⟨d, hd, rfl⟩ := List.mem_map.1 hc
  split_ifs
  · decide
  · exact h d hd

theorem isBalanced_declarationLine {id : String} {n : Node} (hid : IsUnbracketed id.toList)
    (hlabel : IsUnbracketed n.label.toList) : IsBalanced (declarationLine id n) := by
  have hfront : IsUnbracketed ("    class ".toList ++ id.toList) :=
    isUnbracketed_append (by decide) hid
  apply (IsBalanced.of_isUnbracketed hfront).append
  split_ifs
  · exact .nil
  · have hquoted : IsUnbracketed ('"' :: (unquotable (collapse n.label.toList) ++ ['"'])) :=
      isUnbracketed_cons (by decide) (isUnbracketed_append
        (isUnbracketed_unquotable (isUnbracketed_collapse hlabel)) (by decide))
    have hnested := (IsBalanced.of_isUnbracketed hquoted).enclose .square
    rwa [← List.cons_append, ← List.cons_append, List.append_assoc] at hnested

theorem isBalanced_memberLines {members : List String}
    (h : ∀ m ∈ members, IsUnbracketed m.toList) :
    IsBalanced ((members.map fun m => "        ".toList ++ collapse m.toList).flatMap
      (· ++ ['\n'])) := by
  rw [List.flatMap_map]
  apply IsBalanced.flatMap
  intro m hm
  apply IsBalanced.line
  apply IsBalanced.of_isUnbracketed
  exact isUnbracketed_append (by decide) (isUnbracketed_collapse (h m hm))

/-- The brackets of a body are on different lines. -/
theorem isBalanced_classLines {id : String} {n : Node} (hid : IsUnbracketed id.toList)
    (hlabel : IsUnbracketed n.label.toList) (hmembers : ∀ m ∈ n.members, IsUnbracketed m.toList) :
    IsBalanced ((classLines id n).flatMap (· ++ ['\n'])) := by
  have hdeclaration : IsBalanced (declarationLine id n) := isBalanced_declarationLine hid hlabel
  rw [classLines]
  split_ifs
  · rw [List.flatMap_singleton]
    exact hdeclaration.line
  · let body := (n.members.map fun m => "        ".toList ++ collapse m.toList).flatMap (· ++ ['\n'])
    have hbody : IsBalanced body := isBalanced_memberLines hmembers
    have hnested : IsBalanced (Bracket.curly.opener :: ('\n' :: body ++ "    ".toList) ++
        Bracket.curly.closer :: ['\n']) :=
      .nest .curly (.cons (by decide) (hbody.append (.of_isUnbracketed (by decide))))
        (.of_isUnbracketed (by decide))
    have htext : ((declarationLine id n ++ " \x7b".toList) ::
        n.members.map (fun m => "        ".toList ++ collapse m.toList) ++
          ["    \x7d".toList]).flatMap (· ++ ['\n']) =
        declarationLine id n ++ [' '] ++ (Bracket.curly.opener ::
          ('\n' :: body ++ "    ".toList) ++ Bracket.curly.closer :: ['\n']) := by
      simp [body, Bracket.opener, Bracket.closer]
    rw [htext]
    exact (hdeclaration.append (.of_isUnbracketed (by decide))).append hnested

theorem isUnbracketed_relationLine {source target : String} {e : Edge}
    (hsource : IsUnbracketed source.toList) (htarget : IsUnbracketed target.toList)
    (hlabel : IsUnbracketed e.label.toList) : IsUnbracketed (relationLine source target e) := by
  have htoken : IsUnbracketed (relationToken (edgeRelation e)).toList := by
    cases edgeRelation e <;> decide
  apply isUnbracketed_append
  · apply isUnbracketed_append
    · apply isUnbracketed_append (isUnbracketed_append (by decide) hsource)
      exact isUnbracketed_cons (by decide) htoken
    · exact isUnbracketed_cons (by decide) htarget
  · split_ifs
    · exact isUnbracketed_nil
    · exact isUnbracketed_append (by decide) (isUnbracketed_collapse hlabel)

theorem check_write (direction : Direction) (htexts : g.HasPlainTexts) :
    check (Mermaid.write g .classDiagram direction) = [] := by
  rw [Mermaid.write, writeLines, write]
  apply check_of_parts classLines relationLine
    ⟨by decide, by decide, by decide +kernel, by decide⟩ htexts
  · intro n hn id hid
    exact isBalanced_classLines hid (htexts.labels n hn) (htexts.members n hn)
  · exact isUnbracketed_relationLine

end ClassDiagram

/-- The check finds no fault with what is written of a graph whose texts have no brackets. In
flowcharts this holds of graphs without flags, and the ids that are shown count as texts. -/
theorem check_write_eq_nil (g : Graph) (type : DiagramType) (direction : Direction)
    (htexts : g.HasPlainTexts) (hshapes : type = .flowchart → g.HasPlainShapes) :
    check (write g type direction) = [] := by
  cases type with
  | flowchart => exact Flowchart.check_write direction htexts (hshapes rfl)
  | sequence => exact Sequence.check_write direction htexts
  | classDiagram => exact ClassDiagram.check_write direction htexts

/-- A shape with two pairs of brackets, a class with a body, and an id that is not shown. -/
def bodyGraph : Graph where
  nodes :=
    [{ id := "first(one)", label := "First", shape := .hexagon },
     { id := "second", label := "", shape := .parallelogram },
     { id := "Third", label := "The third", shape := .classBox, kind := .classLike,
       members := ["+size", "-name"] }]
  edges :=
    [{ id := "", source := "first(one)", target := "second", label := "a \"b\"" },
     { id := "", source := "Third", target := "second", relation := some .inheritance }]
  subgraphs := []
  settled := []
  nodup := by decide

theorem check_write_bodyGraph :
    check (write bodyGraph .flowchart .lr) = [] ∧ check (write bodyGraph .classDiagram .lr) = [] := by
  have htexts : bodyGraph.HasPlainTexts := ⟨by decide, by decide, by decide⟩
  have hshapes : bodyGraph.HasPlainShapes := ⟨by decide, by decide⟩
  exact ⟨check_write_eq_nil bodyGraph .flowchart .lr htexts fun _ => hshapes,
    check_write_eq_nil bodyGraph .classDiagram .lr htexts fun h => absurd h (by decide)⟩

/-- A flag. -/
def flagGraph : Graph where
  nodes := [{ id := "A", label := "go", shape := .asymmetric }]
  edges := []
  subgraphs := []
  settled := []
  nodup := by decide

/-- A node that has nothing to show but its id. -/
def bareGraph : Graph where
  nodes := [{ id := "a(b", label := "" }]
  edges := []
  subgraphs := []
  settled := []
  nodup := by decide

/-- The right side of a flag is taken for a stray bracket, and a bracket of an id that is shown is
counted. -/
theorem not_check_write_flagGraph_bareGraph :
    (flagGraph.HasPlainTexts ∧ check (write flagGraph .flowchart .td) = [.stray 2 .square]) ∧
      bareGraph.HasPlainTexts ∧ check (write bareGraph .flowchart .td) = [.unclosed 3 1 .round] :=
  ⟨⟨⟨by decide, by decide, by decide⟩, by decide +kernel⟩,
    ⟨by decide, by decide, by decide⟩, by decide +kernel⟩

end Mermaid

end DiagramBridge
