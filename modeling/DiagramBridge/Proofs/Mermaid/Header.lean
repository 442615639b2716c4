import DiagramBridge.Proofs.Mermaid.ClassDiagram.ReadGraph
import DiagramBridge.Proofs.Mermaid.Flowchart.ChainLine
import DiagramBridge.Proofs.Mermaid.Sequence.Statement
import DiagramBridge.Proofs.Text.Case

/-!
# Texts without a header

A text whose first line is no header is a flowchart all of whose lines are content, so it is read as
if a header stood above it. Whether the first line is a header is told by how it begins, in any letter
case. Where the lines are edges, this is how the first id begins: an id that only begins like a header
is taken for one, and the edge on its line is lost.
-/

namespace DiagramBridge.Mermaid

open Text

/-! ## Lines of edges -/

/-- The line of an edge between two ids. -/
def arrowLine (e : List Char × List Char) : List Char :=
  e.1 ++ (" --> ".toList ++ e.2)

/-- The text of some edges, one on a line. -/
def arrowText (es : List (List Char × List Char)) : String :=
  String.ofList (unlines (es.map arrowLine))

def withHeader (text : String) : String :=
  "flowchart TD\n" ++ text

/-- The ids of an edge are words. -/
def HasWordIds (e : List Char × List Char) : Prop :=
  Flowchart.IsWordId e.1 ∧ Flowchart.IsWordId e.2

instance : DecidablePred HasWordIds := fun e =>
  inferInstanceAs (Decidable (Flowchart.IsWordId e.1 ∧ Flowchart.IsWordId e.2))

/-- An id begins like a header, in any letter case. -/
def BeginsHeader (w : List Char) : Prop :=
  ∃ h ∈ headers, h.1.toList <+: lower w

instance : DecidablePred BeginsHeader := fun w =>
  inferInstanceAs (Decidable (∃ h ∈ headers, h.1.toList <+: lower w))

namespace Flowchart

section

variable {e : List Char × List Char}

theorem arrowLine_eq (e : List Char × List Char) :
    arrowLine e = chainLine e.1 [(.bare .plain true, e.2)] := by
  rw [chainLine_cons, chainLine, List.flatMap_nil, List.intercalate_singleton]
  rfl

theorem isProper_bare (he : HasWordIds e) :
    ∀ h ∈ [((.bare .plain true : HopText), e.2)], h.1.IsProper ∧ IsWordId h.2 := by
  rw [List.forall_mem_singleton]
  exact ⟨trivial, he.2⟩

theorem isStatement_arrowLine (he : HasWordIds e) : IsStatement (arrowLine e) :=
  arrowLine_eq e ▸ isStatement_chainLine (isProper_bare he) he.1

/-- The line is an edge unless its first id gives it another meaning. -/
theorem isChainLine_arrowLine_iff (he : HasWordIds e) :
    IsChainLine (arrowLine e) ↔ BeginsChain e.1 := by
  constructor
  · intro h
    have hspace : Stops isWord (" --> ".toList ++ e.2) := stops_cons_iff.2 (by decide)
    have hlooks : ∀ v ∈ ["style", "classDef", "class", "linkStyle", "click"],
        ∃ u ∈ skippedWords, u.toList = v.toList ++ [' '] := by
      decide +kernel
    rw [arrowLine, isChainLine_word_iff (c := '>') he.1.2 hspace (by simp) (by decide)] at h
    refine ⟨he.1, h.2, fun v hv heq => ?_⟩
    obtain ⟨u, hu, hvu⟩ := hlooks v hv
    exact h.1 u hu (by rw [hvu, heq]) _ rfl
  · intro h
    rw [arrowLine_eq]
    exact isChainLine_chainLine (by simp) h

theorem isCutInto_arrowLine (he : HasWordIds e) :
    IsCutInto (Chain.ofLine (arrowLine e)) e.1 [(.bare .plain true, e.2)] := by
  rw [arrowLine_eq]
  exact isCutInto_ofLine (isProper_bare he) (b := []) (by simp) he.1

theorem nodeTexts_arrowLine (he : HasWordIds e) (hfirst : BeginsChain e.1) :
    (Statement.ofLine (arrowLine e)).nodeTexts = [⟨e.1, none⟩, ⟨e.2, none⟩] := by
  rw [(isChainLine_arrowLine_iff he).2 hfirst]
  exact (isCutInto_arrowLine he).nodeTexts_eq

theorem courses_arrowLine (he : HasWordIds e) (hfirst : BeginsChain e.1) :
    (Statement.ofLine (arrowLine e)).courses =
      [⟨String.ofList e.1, String.ofList e.2, "", .plain, true⟩] := by
  rw [(isChainLine_arrowLine_iff he).2 hfirst]
  exact (isCutInto_arrowLine he).courses_eq

/-- Only a line that is read as a chain has nodes. -/
theorem nodeTexts_of_not_isChainLine {line : List Char} (h : ¬ IsChainLine line) :
    (Statement.ofLine line).nodeTexts = [] := by
  cases hline : Statement.ofLine line with
  | chain c =>
      rw [IsChainLine, hline] at h
      rw [Statement.ofLine] at hline
      split at hline
      · exact absurd hline (by simp)
      · split at hline
        · next rest _ =>
          rcases ofOpening_cases rest with ⟨id, label, hopening⟩ | hopening
          · exact absurd (hopening.symm.trans hline) (by simp)
          · exact absurd (hopening.symm.trans hline) (by simp)
        · split at hline
          · exact absurd hline (by simp)
          · exact absurd hline.symm h
  | skipped | opening id label | openingUnnamed | closing => rfl

end

section

variable {es : List (List Char × List Char)} (hes : ∀ e ∈ es, HasWordIds e)
include hes

theorem nodeTexts_arrowLines_subset : ∀ t ∈ nodeTexts (es.map arrowLine),
    ∃ e ∈ es, BeginsChain e.1 ∧ (t = ⟨e.1, none⟩ ∨ t = ⟨e.2, none⟩) := by
  intro t ht
  obtain ⟨line, hline, ht⟩ := List.mem_flatMap.1 ht
  obtain ⟨e, he, rfl⟩ := List.mem_map.1 hline
  by_cases hfirst : BeginsChain e.1
  · rw [nodeTexts_arrowLine (hes e he) hfirst] at ht
    exact ⟨e, he, hfirst, by simpa using ht⟩
  · rw [nodeTexts_of_not_isChainLine (mt (isChainLine_arrowLine_iff (hes e he)).1 hfirst)] at ht
    exact absurd ht List.not_mem_nil

theorem hasNames_arrowLines : HasNames (nodeTexts (es.map arrowLine)) := by
  intro t ht
  obtain ⟨e, he, -, rfl | rfl⟩ := nodeTexts_arrowLines_subset hes t ht
  · exact (hes e he).1.1
  · exact (hes e he).2.1

theorem occurrences_arrowLines_eq_nil_iff :
    occurrences (es.map arrowLine) = [] ↔ ∀ e ∈ es, ¬ BeginsChain e.1 := by
  rw [occurrences_of_hasNames (hasNames_arrowLines hes), List.map_eq_nil_iff]
  constructor
  · intro h e he hfirst
    have hline : nodeTexts [arrowLine e] ⊆ nodeTexts (es.map arrowLine) := fun t ht =>
      List.mem_flatMap.2 ⟨arrowLine e, List.mem_map_of_mem he, by simpa [nodeTexts] using ht⟩
    have hmem : (⟨e.1, none⟩ : NodeText) ∈ nodeTexts [arrowLine e] := by
      rw [nodeTexts, List.flatMap_singleton, nodeTexts_arrowLine (hes e he) hfirst]
      exact List.mem_cons_self
    exact List.ne_nil_of_mem (hline hmem) h
  · intro h
    rw [List.eq_nil_iff_forall_not_mem]
    intro t ht
    obtain ⟨e, he, hfirst, -⟩ := nodeTexts_arrowLines_subset hes t ht
    exact h e he hfirst

end

theorem length_edges_read {body : List (List Char)} (h : HasNames (nodeTexts body)) :
    (read body).edges.length = (courses body).length := by
  rw [← courses_read h, List.length_map]

theorem kind_of_mem_nodes_read {body : List (List Char)} {n : Node} (hn : n ∈ (read body).nodes) :
    n.kind = .node := by
  rw [nodes_read] at hn
  obtain ⟨id, -, rfl⟩ := List.mem_map.1 hn
  rw [declaredNode]
  split <;> rfl

end Flowchart

/-! ## Lines of edges in a sequence diagram -/

namespace Sequence

theorem marked?_word {w : List Char} (hne : w ≠ []) (hw : ∀ c ∈ w, isWord c = true) :
    marked? (' ' :: w) = some (w, []) := by
  obtain ⟨c, w, rfl⟩ := List.exists_cons_of_ne_nil hne
  have hblank : isBlank c = false := isBlank_of_isWord (hw c List.mem_cons_self)
  have htrim : trimStart (' ' :: c :: w) = c :: w := by
    rw [trimStart, List.dropWhile_cons_of_pos (by decide)]
    exact trimStart_cons_of_not_blank hblank
  have hspan : (c :: w).span isNameChar = (c :: w, []) :=
    span_of_forall fun d hd => isNameChar_of_isWord (hw d hd)
  rw [marked?_of_trimStart (hw c List.mem_cons_self) htrim, receiver?,
    trimStart_cons_of_not_blank hblank, hspan]
  rfl

theorem declared?_ne_message {actor : Bool} {s source target label : List Char} {dashed : Bool} :
    declared? actor s ≠ some (.message source target label dashed) := by
  cases s with
  | nil => simp [declared?]
  | cons b s =>
      rw [declared?]
      dsimp only
      split
      · simp
      · split <;> simp

theorem participant?_ne_message {line source target label : List Char} {dashed : Bool} :
    participant? line ≠ some (.message source target label dashed) := by
  rw [participant?]
  split
  · exact declared?_ne_message
  · rw [ne_eq, Option.bind_eq_some_iff]
    rintro ⟨rest, -, h⟩
    exact declared?_ne_message h

/-- The arrow has two dashes, so the line of a message is dashed. -/
theorem eq_true_of_ofLine?_arrowLine {e : List Char × List Char} (he : HasWordIds e)
    {source target label : List Char} {dashed : Bool}
    (h : Statement.ofLine? (arrowLine e) = some (.message source target label dashed)) :
    dashed = true := by
  have hfound : arrow? (trimStart (" --> ".toList ++ e.2)) = some (true, e.2, []) := by
    have htrim : trimStart (" --> ".toList ++ e.2) = "-->".toList ++ ' ' :: e.2 := rfl
    have hlong : after? "-->>" ("-->".toList ++ ' ' :: e.2) = none := rfl
    have hother : after? "->>" ("-->".toList ++ ' ' :: e.2) = none := rfl
    rw [htrim, arrow?, arrows, List.findSome?_cons, hlong, Option.bind_none, Option.map_none,
      List.findSome?_cons, hother, Option.bind_none, Option.map_none, List.findSome?_cons,
      after?_append, Option.bind_some, marked?_word he.2.1 he.2.2]
    rfl
  have hmessage : message? (arrowLine e) = some (.message e.1 e.2 [] true) := by
    rw [message?, arrowLine, arrowAfterName?_word he.1.1 he.1.2 hfound]
  rw [Statement.ofLine?, Option.or_eq_some_iff, hmessage] at h
  rcases h with h | ⟨-, h⟩
  · exact absurd h participant?_ne_message
  · exact ((Statement.message.inj (Option.some.inj h)).2.2.2).symm

theorem lineStyle_of_mem_edges_step {g : Graph} {st : Statement}
    (hst : ∀ source target label dashed, st = .message source target label dashed → dashed = true)
    (hg : ∀ e ∈ g.edges, e.lineStyle = .dashed) : ∀ e ∈ (step g st).edges, e.lineStyle = .dashed := by
  cases st with
  | participant id label actor => rwa [step, Graph.edges_mention]
  | message source target label dashed =>
      obtain rfl := hst _ _ _ _ rfl
      rw [step, Graph.edges_link, Graph.edges_mention, Graph.edges_mention, List.forall_mem_append]
      exact ⟨hg, by simp [Graph.edgeOf]⟩

theorem lineStyle_of_mem_edges_read {es : List (List Char × List Char)}
    (hes : ∀ e ∈ es, HasWordIds e) :
    ∀ e ∈ (read (es.map arrowLine)).edges, e.lineStyle = .dashed := by
  refine List.foldlRecOn (motive := fun g : Graph => ∀ e ∈ g.edges, e.lineStyle = .dashed) _ step
    (by simp [Graph.empty]) fun g hg st hst => lineStyle_of_mem_edges_step ?_ hg
  rintro source target label dashed rfl
  obtain ⟨line, hline, hread⟩ := List.mem_filterMap.1 hst
  obtain ⟨e, he, rfl⟩ := List.mem_map.1 hline
  exact eq_true_of_ofLine?_arrowLine (hes e he) hread

end Sequence

/-! ## The first line -/

section

variable {w : List Char} {e : List Char × List Char}

theorem headerType?_arrowLine_eq_none_iff :
    headerType? (arrowLine e) = none ↔ ¬ BeginsHeader e.1 := by
  have hascii : ∀ h ∈ headers, ∀ c ∈ h.1.toList, c.toNat < 0x80 ∧ c ≠ ' ' := by
    decide +kernel
  rw [headerType?, Option.map_eq_none_iff, List.find?_eq_none, BeginsHeader, not_exists]
  refine forall_congr' fun h => ?_
  rw [not_and]
  refine forall_congr' fun hh => ?_
  rw [startsWith_iff]
  exact not_congr (isPrefix_lower_append (hascii h hh))

/-- An id that begins like a header begins like no statement that is no chain. -/
theorem BeginsHeader.beginsChain (h : BeginsHeader w) (hw : Flowchart.IsWordId w) :
    Flowchart.BeginsChain w := by
  refine ⟨hw, ?_, fun v hv heq => ?_⟩
  · rintro ⟨rest, rfl⟩
    obtain ⟨header, hheader, hpre⟩ := h
    have hnone : ∀ h ∈ headers, 2 ≤ h.1.toList.length ∧ ¬ ['s', 'u'] <+: h.1.toList := by
      decide +kernel
    have hlower : ['s', 'u'] <+: lower ("subgraph".toList ++ rest) :=
      ⟨lowerAfter true ("bgraph".toList ++ rest), rfl⟩
    obtain ⟨hlength, hnot⟩ := hnone header hheader
    exact hnot (List.prefix_of_prefix_length_le hlower hpre hlength)
  · have hnone : ∀ v ∈ ["style", "classDef", "class", "linkStyle", "click"],
        ¬ BeginsHeader v.toList := by
      decide +kernel
    exact hnone v hv (heq ▸ h)

end

/-! ## The texts -/

section

variable {es : List (List Char × List Char)} (hes : ∀ e ∈ es, HasWordIds e)
include hes

theorem forall_isStatement_arrowLines : ∀ s ∈ es.map arrowLine, IsStatement s :=
  List.forall_mem_map.2 fun e he => Flowchart.isStatement_arrowLine (hes e he)

theorem lines_arrowText (hne : es ≠ []) : lines (arrowText es).toList = es.map arrowLine := by
  rw [arrowText, String.toList_ofList]
  exact lines_unlines (fun l hl => (forall_isStatement_arrowLines hes l hl).oneLine)
    (by simpa using hne)

theorem flowchartBody?_withHeader (hne : es ≠ []) :
    flowchartBody? (withHeader (arrowText es)) = some (es.map arrowLine) := by
  have htext : withHeader (arrowText es) =
      String.ofList ("flowchart TD\n".toList ++ unlines (es.map arrowLine)) := by
    rw [String.ofList_append, String.ofList_toList]
    rfl
  rw [htext, flowchartBody?_unlines (by simpa using hne) (forall_isStatement_arrowLines hes)]

end

section

variable {e : List Char × List Char} {es : List (List Char × List Char)}
  (hes : ∀ e' ∈ e :: es, HasWordIds e')
include hes

theorem statements_arrowText :
    statements (arrowText (e :: es)).toList = arrowLine e :: es.map arrowLine := by
  refine statements_of_statementsOf ?_ ?_
  · rw [lines_arrowText hes (List.cons_ne_nil _ _)]
    exact statementsOf_of_isStatement (forall_isStatement_arrowLines hes)
  · obtain ⟨⟨hne, hword⟩, -⟩ := hes e List.mem_cons_self
    intro hhead
    rw [arrowLine, List.head?_append_of_ne_nil _ hne] at hhead
    exact absurd (hword _ (List.mem_of_mem_head? hhead)) (by decide)

/-- A text without a header is read as with one. -/
theorem read_arrowText (h : ¬ BeginsHeader e.1) :
    read (arrowText (e :: es)) = read (withHeader (arrowText (e :: es))) := by
  have hbody : flowchartBody? (arrowText (e :: es)) = some ((e :: es).map arrowLine) := by
    rw [flowchartBody?, statements_arrowText hes]
    dsimp only
    rw [headerType?_arrowLine_eq_none_iff.2 h]
    rfl
  rw [read_of_flowchartBody? hbody,
    read_of_flowchartBody? (flowchartBody?_withHeader hes (List.cons_ne_nil _ _))]

/-- Whatever the header stands for, the graph of the other lines is not that of all lines. -/
theorem readBody_ne (hfirst : Flowchart.BeginsChain e.1) (type : DiagramType) :
    readBody type (es.map arrowLine) ≠ Flowchart.read ((e :: es).map arrowLine) := by
  obtain ⟨he, hrest⟩ := List.forall_mem_cons.1 hes
  have hcourses : Flowchart.courses ((e :: es).map arrowLine) =
      ⟨String.ofList e.1, String.ofList e.2, "", .plain, true⟩ ::
        Flowchart.courses (es.map arrowLine) := by
    rw [List.map_cons, Flowchart.courses, List.flatMap_cons, Flowchart.courses_arrowLine he hfirst]
    rfl
  have hall := Flowchart.courses_read (Flowchart.hasNames_arrowLines hes)
  intro heq
  cases type with
  | flowchart =>
      have hothers := Flowchart.length_edges_read (Flowchart.hasNames_arrowLines hrest)
      have hlength := Flowchart.length_edges_read (Flowchart.hasNames_arrowLines hes)
      rw [hcourses, List.length_cons, ← hothers, ← heq, readBody] at hlength
      omega
  | sequence =>
      rw [hcourses, ← heq, readBody, List.map_eq_cons_iff] at hall
      obtain ⟨edge, edges, hedges, hcourse, -⟩ := hall
      have hdashed := Sequence.lineStyle_of_mem_edges_read hrest edge (hedges ▸ List.mem_cons_self)
      have hplain : edge.lineStyle = .plain := congrArg Flowchart.Course.lineStyle hcourse
      exact absurd (hdashed.symm.trans hplain) (by decide)
  | classDiagram =>
      have hne : (Flowchart.read ((e :: es).map arrowLine)).nodes ≠ [] := by
        rw [Flowchart.nodes_read, ne_eq, Flowchart.declaredNodes_eq_nil_iff,
          Flowchart.occurrences_arrowLines_eq_nil_iff hes]
        exact fun hnone => hnone e List.mem_cons_self hfirst
      obtain ⟨n, hn⟩ := List.exists_mem_of_ne_nil _ hne
      have hkind := Flowchart.kind_of_mem_nodes_read hn
      rw [← heq, readBody] at hn
      rw [((ClassDiagram.isClasses_read _).nodes n hn).kind] at hkind
      exact absurd hkind (by decide)

/-- **A missing header.** Where each line of a text is an edge between two words, the header can be
left out if the first word does not begin like one, and the same is read. If it does, another graph or
none is read. With a header there is a graph unless each line is given another meaning by its first
word. -/
theorem read_withHeader_arrowText :
    (¬ BeginsHeader e.1 → read (arrowText (e :: es)) = read (withHeader (arrowText (e :: es)))) ∧
      ((read (arrowText (e :: es))).map Diagram.graph =
        (read (withHeader (arrowText (e :: es)))).map Diagram.graph ↔ ¬ BeginsHeader e.1) ∧
      ((∃ chart, read (withHeader (arrowText (e :: es))) = .ok ⟨.flowchart, chart⟩) ↔
        ∃ e' ∈ e :: es, Flowchart.BeginsChain e'.1) := by
  have hread := read_of_flowchartBody? (flowchartBody?_withHeader hes (List.cons_ne_nil _ _))
  have hempty := Flowchart.occurrences_arrowLines_eq_nil_iff hes
  refine ⟨read_arrowText hes, ⟨fun hgraph h => ?_, fun h => by rw [read_arrowText hes h]⟩, ?_⟩
  · have hfirst := h.beginsChain (hes e List.mem_cons_self).1
    obtain ⟨type, htype⟩ := Option.ne_none_iff_exists'.1
      (mt headerType?_arrowLine_eq_none_iff.1 (not_not_intro h))
    -- The line with the header's beginning is dropped, and a graph of the others is read if any.
    rw [hread, if_neg (mt hempty.1 fun hnone => hnone e List.mem_cons_self hfirst), read,
      statements_arrowText hes] at hgraph
    dsimp only at hgraph
    rw [ofStatements, htype] at hgraph
    dsimp only at hgraph
    split at hgraph
    · exact absurd hgraph (by simp [Except.map])
    · exact readBody_ne hes hfirst type (Except.ok.inj hgraph)
  · rw [hread]
    by_cases hnone : ∀ e' ∈ e :: es, ¬ Flowchart.BeginsChain e'.1
    · rw [if_pos (hempty.2 hnone)]
      refine iff_of_false (by simp) ?_
      rintro ⟨e', he', h⟩
      exact hnone e' he' h
    · rw [if_neg (mt hempty.1 hnone)]
      exact iff_of_true ⟨_, rfl⟩ (by simpa only [not_forall, not_not, exists_prop] using hnone)

end

/-- The first id begins like two words with a meaning, and the second line is one about looks. -/
theorem read_withHeader_arrowText_classic :
    read "classic --> end\nstyle --> graph" = read (withHeader "classic --> end\nstyle --> graph") ∧
      ((read "classic --> end\nstyle --> graph").map Diagram.graph =
        (read (withHeader "classic --> end\nstyle --> graph")).map Diagram.graph ↔
          ¬ BeginsHeader "classic".toList) ∧
      ∃ chart, read (withHeader "classic --> end\nstyle --> graph") = .ok ⟨.flowchart, chart⟩ := by
  obtain ⟨hsame, hiff, hok⟩ := @read_withHeader_arrowText ("classic".toList, "end".toList)
    [("style".toList, "graph".toList)] (by decide)
  have htext : arrowText [("classic".toList, "end".toList), ("style".toList, "graph".toList)] =
      "classic --> end\nstyle --> graph" := by
    decide +kernel
  rw [htext] at hsame hiff hok
  refine ⟨hsame (by decide +kernel), hiff, hok.2 ⟨_, List.mem_cons_self, ?_⟩⟩
  exact ⟨by decide, by decide, by decide +kernel⟩

/-- An id that begins like a header and is none. -/
theorem read_ne_read_withHeader_graphics :
    (∀ e ∈ [("graphics".toList, "b".toList), ("b".toList, "c".toList)], HasWordIds e) ∧
      (∀ h ∈ headers, lower "graphics".toList ≠ h.1.toList) ∧
      (read (arrowText [("graphics".toList, "b".toList), ("b".toList, "c".toList)])).map
          Diagram.graph ≠
        (read (withHeader (arrowText
          [("graphics".toList, "b".toList), ("b".toList, "c".toList)]))).map Diagram.graph := by
  refine ⟨by decide, by decide +kernel, fun h => ?_⟩
  have hlengths := congrArg (Except.map fun g : Graph => g.edges.length) h
  exact absurd hlengths (by decide +kernel)

end DiagramBridge.Mermaid
