import DiagramBridge.Proofs.Mermaid.ClassDiagram.Relation
import DiagramBridge.Proofs.Mermaid.Statements
import DiagramBridge.Proofs.Mermaid.WellFormed

/-!
# Mirrored relations

Most symbols come in pairs, one for either direction of writing. A line read from right to left, with
the other symbol of the pair and the cardinalities exchanged, says the same: the edge has the same
ends, and so the same relation, the same line and the same label. Names may be any words, also words
that end like a symbol begins.
-/

namespace DiagramBridge.Mermaid.ClassDiagram

open Text

/-! ## Pairs of symbols -/

/-- Two symbols that are mirror images, and what both of them mean. The edge runs from right to left
for the first and from left to right for the second. -/
structure MirrorPair where
  leftward : String
  rightward : String
  relation : Relation
  lineStyle : LineStyle
  deriving DecidableEq

def MirrorPair.first (p : MirrorPair) : Symbol :=
  ⟨p.leftward, p.relation, true, p.lineStyle⟩

def MirrorPair.second (p : MirrorPair) : Symbol :=
  ⟨p.rightward, p.relation, false, p.lineStyle⟩

def mirrorPairs : List MirrorPair :=
  [⟨"<|--", "--|>", .inheritance, .plain⟩,
   ⟨"<|..", "..|>", .realization, .dashed⟩,
   ⟨"--*", "*--", .aggregation, .plain⟩,
   ⟨"--o", "o--", .aggregation, .plain⟩,
   ⟨"<..", "..>", .dependency, .dashed⟩,
   ⟨"<--", "-->", .association, .plain⟩]

theorem mem_symbols_of_mem_mirrorPairs :
    ∀ p ∈ mirrorPairs, p.first ∈ symbols ∧ p.second ∈ symbols := by
  decide

/-! ## Diagrams of one relation -/

/-- A cardinality between quotes with a space behind it, if there is one. -/
def cardinality : Option String → String
  | none => ""
  | some count => "\"" ++ count ++ "\" "

/-- A diagram of one relation, with a cardinality on either side of its symbol or without. -/
def oneRelation (left : String) (count : Option String) (symbol : String) (count' : Option String)
    (right label : String) : String :=
  "classDiagram\n" ++
    (left ++ " " ++ cardinality count ++ symbol ++ " " ++ cardinality count' ++ right ++ " : " ++
      label)

theorem toList_cardinality (count : Option String) :
    (cardinality count).toList = quotedPart (count.map String.toList) := by
  cases count with
  | none => rfl
  | some s => simp [cardinality, quotedPart]

/-- The line of a relation up to the colon. -/
def frontOf (left : List Char) (count : Option String) (symbol : String) (count' : Option String)
    (right : List Char) : List Char :=
  left ++ ' ' :: (quotedPart (count.map String.toList) ++ (symbol.toList ++
    ' ' :: (quotedPart (count'.map String.toList) ++ (right ++ [' ']))))

theorem toList_oneRelation (left : String) (count : Option String) (symbol : String)
    (count' : Option String) (right label : String) :
    (oneRelation left count symbol count' right label).toList = "classDiagram".toList ++
      '\n' :: (frontOf left.toList count symbol count' right.toList ++ ':' :: ' ' :: label.toList) := by
  have hline : (left ++ " " ++ cardinality count ++ symbol ++ " " ++ cardinality count' ++ right ++
      " : " ++ label).toList =
        frontOf left.toList count symbol count' right.toList ++ ':' :: ' ' :: label.toList := by
    simp [frontOf, toList_cardinality]
  have hheader : "classDiagram\n".toList = "classDiagram".toList ++ ['\n'] := by decide
  rw [oneRelation, String.toList_append, hline, hheader, List.append_assoc, List.singleton_append]

theorem isStatement_header : IsStatement "classDiagram".toList where
  content := by decide
  start := by decide
  ending := by decide
  oneLine := by decide

/-- The id of a class that is one word. -/
structure IsWordName (s : String) : Prop where
  nonempty : s.toList ≠ []
  word : ∀ c ∈ s.toList, isWord c = true

/-- A text that can stand between quotes on one line. -/
def IsQuotable (s : String) : Prop :=
  '"' ∉ s.toList ∧ '\n' ∉ s.toList

theorem quote_not_mem {count : Option String} (hcount : ∀ s ∈ count, IsQuotable s) :
    ∀ s ∈ count.map String.toList, '"' ∉ s := by
  intro s hs
  obtain ⟨t, ht, rfl⟩ := Option.map_eq_some_iff.1 hs
  exact (hcount t ht).1

theorem lineFeed_not_mem_quotedPart {count : Option String} (hcount : ∀ s ∈ count, IsQuotable s) :
    '\n' ∉ quotedPart (count.map String.toList) := by
  cases count with
  | none => exact List.not_mem_nil
  | some s => simp [quotedPart, (hcount s rfl).2]

section

variable {left right : String} (hleft : IsWordName left) (hright : IsWordName right)
  {count count' : Option String} (hcount : ∀ s ∈ count, IsQuotable s)
  (hcount' : ∀ s ∈ count', IsQuotable s) {label : String} (hlabel : '\n' ∉ label.toList)
  {a : Symbol} (ha : a ∈ symbols)
include hleft hright hcount hcount' hlabel ha

theorem statements_oneRelation :
    statements (oneRelation left count a.text count' right label).toList =
      ["classDiagram".toList, frontOf left.toList count a.text count' right.toList ++
        ':' :: statementEnd (' ' :: label.toList)] := by
  obtain ⟨c, s, hs⟩ := List.exists_cons_of_ne_nil hleft.nonempty
  have hword := hleft.word
  rw [hs, List.forall_mem_cons] at hword
  have hsymbol : ∀ b ∈ symbols, '\n' ∉ b.text.toList := by decide
  have hfront : '\n' ∉ frontOf s count a.text count' right.toList := by
    simp [frontOf, lineFeed_not_mem_of_word hword.2, lineFeed_not_mem_of_word hright.word,
      lineFeed_not_mem_quotedPart hcount, lineFeed_not_mem_quotedPart hcount', hsymbol a ha]
  rw [toList_oneRelation, hs]
  exact statements_labelledLine isStatement_header (by decide) hword.1 hfront (by simp [hlabel])

omit hlabel in
/-- The line of a relation is read with its classes, its symbol and its label. -/
theorem ofLine?_oneRelation :
    Statement.ofLine? (frontOf left.toList count a.text count' right.toList ++
        ':' :: statementEnd (' ' :: label.toList)) =
      some (.relation left.toList right.toList (statement label.toList) a) := by
  have hmark : IsReadAsLabel (' ' :: ':' :: statementEnd (' ' :: label.toList))
      (statement label.toList) := by
    refine Or.inr ⟨_, rfl, ?_⟩
    rw [trim_statementEnd, statement_eq, trimStart_cons_of_blank (by decide), ← statement_eq]
  have hread := ofLine?_counted ha (quote_not_mem hcount) (quote_not_mem hcount') hleft.nonempty
    hleft.word hright.nonempty hright.word hmark
  rw [← hread]
  simp [frontOf]

/-- A diagram of one relation has one edge, which runs as the symbol says. -/
theorem exists_read_oneRelation :
    ∃ g, Mermaid.read (oneRelation left count a.text count' right label) =
        .ok ⟨.classDiagram, g⟩ ∧
      g.edges =
        [{ id := "edge_0", source := if a.reversed then right else left
           target := if a.reversed then left else right, label := onChars statement label
           lineStyle := a.lineStyle, relation := some a.relation }] := by
  have hheader : headerType? "classDiagram".toList = some .classDiagram := by decide
  have hstatements := statements_oneRelation hleft hright hcount hcount' hlabel ha
  have hgraph : readBody .classDiagram [frontOf left.toList count a.text count' right.toList ++
      ':' :: statementEnd (' ' :: label.toList)] = (Progress.start.step
        (.relation left.toList right.toList (statement label.toList) a)).graph := by
    rw [readBody, read, List.foldl_cons, List.foldl_nil, Progress.readLine]
    simp only [Progress.start, ofLine?_oneRelation hleft hright hcount hcount' ha]
  refine ⟨_, read_of_statements hstatements hheader ?_, ?_⟩
  · have hright : right ∈ (mentionClass (mentionClass .empty left none) right none).nodeIds :=
      Graph.mem_nodeIds_mention.2 (.inr rfl)
    rw [hgraph, Progress.step, List.isEmpty_eq_false_iff]
    simp only [String.ofList_toList]
    exact fun hnil => List.ne_nil_of_mem hright (List.map_eq_nil_iff.2 hnil)
  · have hedges : (mentionClass (mentionClass .empty left none) right none).edges = [] := by
      simp [mentionClass, Graph.empty]
    rw [hgraph, Progress.step]
    simp only [String.ofList_toList, Progress.start, Graph.edges_link, hedges, List.nil_append,
      Graph.edgeOf, Graph.freshEdgeId, if_true]
    rfl

end

/-- **A relation and its mirror image say the same.** Both lines give one edge, and it is the same
edge: from the class on the right of the first symbol of the pair to the class on its left. -/
theorem edges_mirrored {p : MirrorPair} (hp : p ∈ mirrorPairs) {left right : String}
    (hleft : IsWordName left) (hright : IsWordName right) {count count' : Option String}
    (hcount : ∀ s ∈ count, IsQuotable s) (hcount' : ∀ s ∈ count', IsQuotable s) {label : String}
    (hlabel : '\n' ∉ label.toList) :
    ∃ g g' e, Mermaid.read (oneRelation left count p.leftward count' right label) =
        .ok ⟨.classDiagram, g⟩ ∧
      Mermaid.read (oneRelation right count' p.rightward count left label) =
        .ok ⟨.classDiagram, g'⟩ ∧
      g.edges = [e] ∧ g'.edges = [e] ∧
      e = { id := "edge_0", source := right, target := left, label := onChars statement label
            lineStyle := p.lineStyle, relation := some p.relation } := by
  obtain ⟨hfirst, hsecond⟩ := mem_symbols_of_mem_mirrorPairs p hp
  obtain ⟨g, hg, hedges⟩ := exists_read_oneRelation hleft hright hcount hcount' hlabel hfirst
  obtain ⟨g', hg', hedges'⟩ := exists_read_oneRelation hright hleft hcount' hcount hlabel hsecond
  exact ⟨g, g', _, hg, hg', hedges, hedges', rfl⟩

/-- One class is named by the keyword, and the name of the other might be part of the symbol. -/
theorem edges_mirrored_keyword :
    ∃ g g' e, Mermaid.read "classDiagram\nclass --o \"0..1\" oo : holds;" =
        .ok ⟨.classDiagram, g⟩ ∧
      Mermaid.read "classDiagram\noo \"0..1\" o-- class : holds;" = .ok ⟨.classDiagram, g'⟩ ∧
      g.edges = [e] ∧ g'.edges = [e] ∧
      e = { id := "edge_0", source := "oo", target := "class", label := "holds"
            lineStyle := .plain, relation := some .aggregation } := by
  have hpair : ⟨"--o", "o--", .aggregation, .plain⟩ ∈ mirrorPairs := by decide
  have hclass : IsWordName "class" := ⟨by decide, by decide⟩
  have hcircle : IsWordName "oo" := ⟨by decide, by decide⟩
  have hcount : ∀ s ∈ some "0..1", IsQuotable s := by
    rintro s hs
    rw [← Option.some.inj hs]
    exact ⟨by decide, by decide⟩
  have hnone : ∀ s ∈ (none : Option String), IsQuotable s := by simp
  have hline : '\n' ∉ "holds;".toList := by decide
  have hlabel : onChars statement "holds;" = "holds" := by decide
  have hthere : oneRelation "class" none "--o" (some "0..1") "oo" "holds;" =
      "classDiagram\nclass --o \"0..1\" oo : holds;" := by decide
  have hback : oneRelation "oo" (some "0..1") "o--" none "class" "holds;" =
      "classDiagram\noo \"0..1\" o-- class : holds;" := by decide
  have h := edges_mirrored hpair hclass hcircle hnone hcount hline
  rwa [hlabel, hthere, hback] at h

end DiagramBridge.Mermaid.ClassDiagram
