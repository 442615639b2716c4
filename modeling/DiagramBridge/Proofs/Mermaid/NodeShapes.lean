import DiagramBridge.Proofs.Mermaid.Flowchart.LineOrder
import DiagramBridge.Proofs.Mermaid.RoundTrip

/-!
# The shapes of written nodes

The brackets of a node tell its shape, and the writer quotes every label that has a bracket in it. So
no label completes the brackets of another shape, with one exception: a slash is no reason for quotes,
and square brackets with a slash inside at both ends are those of a parallelogram.

The line of a node declares it, and what is declared stays, whatever the lines of the edges say.
-/

namespace DiagramBridge.Mermaid

open Text

/-! ## Labels between slashes -/

/-- A label that is written without quotes and has something between slashes at its two ends. -/
def IsSlashed (s : List Char) : Prop :=
  s.any needsQuotes = false ∧ 2 < s.length ∧ s.head? = some '/' ∧ s.getLast? = some '/'

instance (s : List Char) : Decidable (IsSlashed s) :=
  inferInstanceAs (Decidable (_ ∧ _ ∧ _ ∧ _))

theorem exists_of_slashes {s : List Char} (hlength : 1 < s.length) (hhead : s.head? = some '/')
    (hlast : s.getLast? = some '/') : ∃ u, s = '/' :: (u ++ ['/']) := by
  obtain ⟨t, rfl⟩ := List.head?_eq_some_iff.1 hhead
  have hne : t ≠ [] := by
    rintro rfl
    exact absurd hlength (by decide)
  rw [List.getLast?_cons_of_ne_nil hne] at hlast
  obtain ⟨u, rfl⟩ := List.getLast?_eq_some_iff.1 hlast
  exact ⟨u, rfl⟩

theorem IsSlashed.exists_eq {s : List Char} (h : IsSlashed s) :
    ∃ u, u ≠ [] ∧ u.any needsQuotes = false ∧ s = '/' :: (u ++ ['/']) := by
  obtain ⟨hplain, hlength, hhead, hlast⟩ := h
  obtain ⟨u, rfl⟩ := exists_of_slashes (Nat.lt_of_succ_lt hlength) hhead hlast
  refine ⟨u, ?_, ?_, rfl⟩
  · rintro rfl
    exact absurd hlength (by decide)
  · rw [List.any_cons, List.any_append] at hplain
    exact (Bool.or_eq_false_iff.1 (Bool.or_eq_false_iff.1 hplain).2).1

theorem encodeChar_ne_nil (c : Char) : encodeChar c ≠ [] := by
  rcases encodeChar_cases c with hc | ⟨d, t, hc, -⟩
  · exact hc ▸ List.cons_ne_nil _ _
  · exact hc ▸ List.cons_ne_nil _ _

theorem encode_ne_nil {s : List Char} (h : s ≠ []) : encode s ≠ [] := by
  obtain ⟨c, s, rfl⟩ := List.exists_cons_of_ne_nil h
  rw [encode, List.flatMap_cons]
  exact List.append_ne_nil_of_left_ne_nil (encodeChar_ne_nil c) _

/-- What line breaks and double quotes are written as has a slash at neither end. -/
theorem eq_slash_of_encodeChar {c : Char} :
    ((encodeChar c).head? = some '/' → c = '/') ∧
      ((encodeChar c).getLast? = some '/' → c = '/') := by
  rw [encodeChar, quotedLabelChar]
  split_ifs
  · exact ⟨fun h => absurd h (by decide), fun h => absurd h (by decide)⟩
  · exact ⟨fun h => absurd h (by decide), fun h => absurd h (by decide)⟩
  · exact ⟨Option.some.inj, Option.some.inj⟩

theorem head?_of_encode {s : List Char} (h : (encode s).head? = some '/') : s.head? = some '/' := by
  cases s with
  | nil => exact h
  | cons c s =>
      rw [encode, List.flatMap_cons, List.head?_append_of_ne_nil _ (encodeChar_ne_nil c)] at h
      exact congrArg some (eq_slash_of_encodeChar.1 h)

theorem getLast?_of_encode {s : List Char} (h : (encode s).getLast? = some '/') :
    s.getLast? = some '/' := by
  rcases List.eq_nil_or_concat s with rfl | ⟨s, c, rfl⟩
  · exact h
  · rw [List.concat_eq_append, encode_append, encode, encode, List.flatMap_singleton,
      List.getLast?_append_of_ne_nil _ (encodeChar_ne_nil c)] at h
    rw [List.concat_eq_append, List.getLast?_append_of_ne_nil _ (List.cons_ne_nil c [])]
    exact congrArg some (eq_slash_of_encodeChar.2 h)

/-- One or two slashes alone leave nothing to stand between them. -/
theorem eq_slashes {s : List Char} (hlength : s.length ≤ 2) (hhead : s.head? = some '/')
    (hlast : s.getLast? = some '/') : s = ['/'] ∨ s = ['/', '/'] := by
  by_cases hone : 1 < s.length
  · obtain ⟨u, rfl⟩ := exists_of_slashes hone hhead hlast
    obtain rfl : u = [] := by simpa using hlength
    exact Or.inr rfl
  · obtain ⟨t, rfl⟩ := List.head?_eq_some_iff.1 hhead
    obtain rfl : t = [] := by simpa using hone
    exact Or.inl rfl

namespace Flowchart

/-! ## The brackets of written labels -/

theorem brackets_of_bracketed {shape : Shape} (h : bracketed shape = .rectangle) :
    brackets shape = ("[", "]") := by
  rw [← brackets_bracketed, h]
  rfl

theorem bracketed_of_mem {shape : Shape} (h : shape ∈ bracketedShapes) :
    bracketed shape = shape := by
  revert shape
  decide

/-- What is written without quotes between slashes is read as what stands between the slashes. -/
theorem bracket?_of_isSlashed {shape : Shape} {s : List Char} (hshape : bracketed shape = .rectangle)
    (hs : IsSlashed s) : (bracket? ((brackets shape).1.toList ++
      (labelText s ++ (brackets shape).2.toList))).map Prod.fst = some .parallelogram := by
  obtain ⟨u, hne, hplain, rfl⟩ := hs.exists_eq
  have hlabel : labelText ('/' :: (u ++ ['/'])) = '/' :: (encode u ++ ['/']) := by
    rw [labelText_eq, if_neg (by simp [hs.1]), ← List.singleton_append, encode_append,
      encode_append]
    rfl
  have hfits : FitsBrackets .parallelogram (encode u) :=
    ⟨encode_ne_nil hne, head_encode_of_plain hplain, fun h => absurd h (by decide)⟩
  have htext : (brackets shape).1.toList ++
      (labelText ('/' :: (u ++ ['/'])) ++ (brackets shape).2.toList) =
        (brackets .parallelogram).1.toList ++
          (encode u ++ (brackets .parallelogram).2.toList) := by
    rw [brackets_of_bracketed hshape, hlabel]
    simp [brackets]
  rw [htext, bracket?_written .parallelogram hfits]
  rfl

/-- The brackets of a written node are read as they are written, unless the label is slashed. -/
theorem bracket?_of_not_isSlashed {shape : Shape} {s : List Char} (hne : s ≠ [])
    (hs : bracketed shape = .rectangle → ¬ IsSlashed s) :
    (bracket? ((brackets shape).1.toList ++
      (labelText s ++ (brackets shape).2.toList))).map Prod.fst = some (bracketed shape) := by
  by_cases hslashes : bracketed shape = .rectangle ∧ s.any needsQuotes = false ∧
      (encode s).head? = some '/' ∧ (encode s).getLast? = some '/'
  · obtain ⟨hshape, hplain, hhead, hlast⟩ := hslashes
    replace hhead := head?_of_encode hhead
    replace hlast := getLast?_of_encode hlast
    have hlength : s.length ≤ 2 :=
      Nat.not_lt.1 fun hlength => hs hshape ⟨hplain, hlength, hhead, hlast⟩
    rw [brackets_of_bracketed hshape, hshape]
    rcases eq_slashes hlength hhead hlast with rfl | rfl
    · decide +kernel
    · decide +kernel
  · have hfits : FitsBrackets shape (labelText s) :=
      fitsBrackets_labelText (encode_ne_nil hne) fun hshape hplain hends =>
        hslashes ⟨hshape, hplain, hends⟩
    rw [bracket?_written shape hfits]
    rfl

/-! ## Declarations of written nodes -/

/-- A node whose line is a declaration with brackets that are its own. -/
structure HasOwnLine (g : Graph) (n : Node) : Prop where
  shape : n.shape ∈ bracketedShapes
  nonempty : nodeLabel n ≠ []
  arrowFree : IsArrowFree (nodeLabel n)
  notOpening : ¬ "subgraph".toList <+: (idOf g n.id).toList

instance (g : Graph) (n : Node) : Decidable (HasOwnLine g n) :=
  decidable_of_iff (_ ∧ _ ∧ _ ∧ _)
    ⟨fun h => ⟨h.1, h.2.1, h.2.2.1, h.2.2.2⟩, fun h => ⟨h.1, h.2, h.3, h.4⟩⟩

/-- The shape that is read from the line of a node. -/
def readShape (n : Node) : Shape :=
  if n.shape = .rectangle ∧ IsSlashed (nodeLabel n) then .parallelogram else n.shape

section

variable {g : Graph} {n : Node}

theorem map_fst_bracket?_bracketText (h : HasOwnLine g n) :
    (bracket? (bracketText n)).map Prod.fst = some (readShape n) := by
  have hshape := bracketed_of_mem h.shape
  rw [readShape]
  split
  · next hslashed =>
    exact bracket?_of_isSlashed (hshape.trans hslashed.1) hslashed.2
  · next hslashed =>
    rw [bracketText, bracket?_of_not_isSlashed h.nonempty, hshape]
    exact fun hrectangle hs => hslashed ⟨hshape.symm.trans hrectangle, hs⟩

theorem nodeTexts_nodeStatement (hn : n ∈ g.nodes) (h : HasOwnLine g n) :
    (Statement.ofLine (nodeStatement (idOf g n.id) n)).nodeTexts =
      [⟨(idOf g n.id).toList, bracket? (bracketText n)⟩] := by
  have hid : n.id ∈ g.nodeIds := List.mem_map_of_mem hn
  have hword : ∀ c ∈ (idOf g n.id).toList, isWord c = true := fun c => isWord_of_mem_idOf hid
  rw [ofLine_nodeStatement hword ((isChainLine_nodeStatement_iff hword).2 h.notOpening) h.arrowFree,
    Statement.nodeTexts, Chain.nodeTexts, filterMap_read?_cons,
    read?_nodeStatement n (idOf_toList_ne_nil hid) hword]
  rfl

/-- The lines of the nodes mention all nodes with their brackets, before any line of an edge. -/
theorem exists_occurrences_body (h : ∀ n ∈ g.nodes, HasOwnLine g n) :
    ∃ os, occurrences (body g) =
      g.nodes.map (fun n => ⟨idOf g n.id, bracket? (bracketText n)⟩) ++ os := by
  have htexts : nodeTexts (g.nodes.map fun n => nodeStatement (idOf g n.id) n) =
      g.nodes.map fun n => ⟨(idOf g n.id).toList, bracket? (bracketText n)⟩ := by
    rw [nodeTexts, List.flatMap_map, List.map_eq_flatMap]
    exact List.flatMap_congr fun n hn => nodeTexts_nodeStatement hn (h n hn)
  have hnames : HasNames (nodeTexts (g.nodes.map fun n => nodeStatement (idOf g n.id) n)) := by
    rw [htexts, HasNames, List.forall_mem_map]
    exact fun n hn => idOf_toList_ne_nil (List.mem_map_of_mem hn)
  obtain ⟨os, hos⟩ := exists_occurrences_append
    (g.nodes.map fun n => nodeStatement (idOf g n.id) n)
    (g.validEdges.map fun e => edgeStatement (idOf g e.source) (idOf g e.target) e)
  refine ⟨os, ?_⟩
  rw [body, hos, occurrences_of_hasNames hnames, htexts, List.map_map]
  congr 1
  exact List.map_congr_left fun n _ => by
    rw [Function.comp_apply, NodeText.occurrence, String.ofList_toList]

/-- The ids of the nodes are distinct, so each of the lines declares a node of its own. -/
theorem lookup_declarations_nodes (hn : n ∈ g.nodes) {b : Shape × List Char}
    (hb : bracket? (bracketText n) = some b) :
    (declarations (g.nodes.map fun n => ⟨idOf g n.id, bracket? (bracketText n)⟩)).lookup
      (idOf g n.id) = some b := by
  have hids : ((declarations
      (g.nodes.map fun n => ⟨idOf g n.id, bracket? (bracketText n)⟩)).map Prod.fst).Nodup := by
    refine (map_fst_declarations_sublist _).nodup ?_
    rw [List.map_map]
    exact nodup_map_idOf g
  rw [lookup_eq_some_iff_mem hids]
  exact List.mem_filterMap.2 ⟨_, List.mem_map_of_mem hn, by rw [hb]; rfl⟩

/-- Every node is read with the shape of its line, whatever the lines of the edges say. -/
theorem exists_node?_read_body (h : ∀ n ∈ g.nodes, HasOwnLine g n) (hn : n ∈ g.nodes) :
    ∃ m, (read (body g)).node? (idOf g n.id) = some m ∧ m.shape = readShape n := by
  obtain ⟨os, hos⟩ := exists_occurrences_body h
  obtain ⟨b, hb, hshape⟩ := Option.map_eq_some_iff.1 (map_fst_bracket?_bracketText (h n hn))
  have hlookup := lookup_declarations_nodes hn hb
  have hmem : idOf g n.id ∈ (occurrences (body g)).map Occurrence.id := by
    rw [hos, List.map_append, List.map_map]
    exact List.mem_append_left _ (List.mem_map_of_mem hn)
  refine ⟨declaredNode (occurrences (body g)) (idOf g n.id), ?_, ?_⟩
  · rw [node?_read, if_pos hmem]
  · rw [hos, declaredNode_append_of_declared (by rw [hlookup]; rfl), declaredNode, hlookup, ← hshape]

end

end Flowchart

/-! ## Written flowcharts -/

/-- **Shapes.** Whatever the labels of the nodes are, as long as no arrow token stands in them, each
node of the flowchart comes back with its shape, unless it is a rectangle whose label is written
without quotes between two slashes: that one comes back as a parallelogram. -/
theorem shapes_of_read_write {g : Graph} (hne : g.nodes ≠ [])
    (h : ∀ n ∈ g.nodes, Flowchart.HasOwnLine g n) (direction : Direction) :
    ∃ chart, read (write g .flowchart direction) = .ok ⟨.flowchart, chart⟩ ∧
      ∀ n ∈ g.nodes, ∃ m, chart.node? (idOf g n.id) = some m ∧
        (m.shape = n.shape ↔ ¬ (n.shape = .rectangle ∧ IsSlashed (nodeLabel n))) ∧
          (n.shape = .rectangle ∧ IsSlashed (nodeLabel n) → m.shape = .parallelogram) := by
  have hnodes : (Flowchart.read (Flowchart.body g)).nodes ≠ [] := by
    obtain ⟨n, hn⟩ := List.exists_mem_of_ne_nil _ hne
    obtain ⟨m, hm, -⟩ := Flowchart.exists_node?_read_body h hn
    exact List.ne_nil_of_mem (List.mem_of_find?_eq_some hm)
  refine ⟨_, read_write_of_nodes hnodes direction, fun n hn => ?_⟩
  obtain ⟨m, hm, hshape⟩ := Flowchart.exists_node?_read_body h hn
  rw [Flowchart.readShape] at hshape
  refine ⟨m, hm, ?_, fun hslashed => by rw [hshape, if_pos hslashed]⟩
  by_cases hslashed : n.shape = .rectangle ∧ IsSlashed (nodeLabel n)
  · rw [hshape, if_pos hslashed, hslashed.1]
    exact iff_of_false (by decide) (not_not_intro ⟨rfl, hslashed.2⟩)
  · rw [hshape, if_neg hslashed]
    exact iff_of_true rfl hslashed

/-- Labels of slashes and brackets, and an edge whose label declares two of the nodes once more. -/
def ridgeGraph : Graph where
  nodes :=
    [{ id := "A", label := "/" }, { id := "B", label := "//" }, { id := "C", label := "/(/" },
     { id := "D", label := "/ ridge /" }, { id := "E", label := "/x/", shape := .parallelogram },
     { id := "F", label := "[[x]]", shape := .stadium },
     { id := "G", label := "x)", shape := .rounded }]
  edges := [{ id := "", source := "A", target := "B", label := "x|A((no)) --> F\x7bno\x7d --> y" }]
  subgraphs := []
  settled := []
  nodup := by decide

theorem shapes_of_read_write_ridgeGraph :
    ∃ chart, read (write ridgeGraph .flowchart .td) = .ok ⟨.flowchart, chart⟩ ∧
      ∀ n ∈ ridgeGraph.nodes, ∃ m, chart.node? (idOf ridgeGraph n.id) = some m ∧
        (m.shape = n.shape ↔ ¬ (n.shape = .rectangle ∧ IsSlashed (nodeLabel n))) ∧
          (n.shape = .rectangle ∧ IsSlashed (nodeLabel n) → m.shape = .parallelogram) :=
  shapes_of_read_write (by decide) (by decide +kernel) .td

/-- A rectangle whose label stands between two slashes. -/
def slashGraph : Graph where
  nodes := [{ id := "A", label := "/x/" }]
  edges := []
  subgraphs := []
  settled := []
  nodup := by decide

/-- The slashes are read as a part of the brackets. -/
theorem not_sameShape_slashGraph :
    (∀ n ∈ slashGraph.nodes, Flowchart.HasOwnLine slashGraph n ∧ IsTrimmed n.label.toList ∧
        '\n' ∉ n.label.toList) ∧
      ¬ ∃ chart, read (write slashGraph .flowchart .td) = .ok ⟨.flowchart, chart⟩ ∧
        ∀ n ∈ slashGraph.nodes, ∃ m, chart.node? (idOf slashGraph n.id) = some m ∧
          m.shape = n.shape := by
  have hnode : (Flowchart.read (Flowchart.body slashGraph)).node? (idOf slashGraph "A") =
      some { id := "A", label := "x", shape := .parallelogram } := by
    decide +kernel
  refine ⟨by decide +kernel, ?_⟩
  rintro ⟨chart, hread, hshapes⟩
  rw [read_write_of_nodes (by decide +kernel) .td] at hread
  obtain rfl := (Diagram.mk.inj (Except.ok.inj hread)).2
  obtain ⟨m, hm, hshape⟩ := hshapes _ List.mem_cons_self
  rw [hnode] at hm
  rw [← Option.some.inj hm] at hshape
  exact absurd hshape (by decide)

end DiagramBridge.Mermaid
