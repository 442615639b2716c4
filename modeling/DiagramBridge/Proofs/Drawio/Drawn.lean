import DiagramBridge.Drawio.Writer
import DiagramBridge.Proofs.Diagram.Graph
import DiagramBridge.Proofs.Drawio.Label
import DiagramBridge.Proofs.Drawio.Style
import DiagramBridge.Proofs.Drawio.WrittenCells
import DiagramBridge.Proofs.Xml.Legality

/-!
# What a graph model is made of

Every graph is drawn with the same few tags and attributes and without character data, so whether
its graph model is a document depends on the values of the attributes alone. Those come down to the
texts of the graph: ids, labels and members. Drawing loses none of their characters.
-/

namespace DiagramBridge.Drawio

open Text Xml

/-! ## Elements of a graph model -/

/-- An element as it can stand in a graph model. -/
structure IsDrawn (e : Element) : Prop where
  tag : e.tag ∈ [modelTag, rootTag, cellTag, geometryTag]
  names : ArePlainNames (e.attributes.map Prod.fst)
  text : e.text = ""

theorem IsDrawn.isTidy {e : Element} (h : IsDrawn e) : e.IsTidy where
  tag := by
    have hall : ∀ tag ∈ [modelTag, rootTag, cellTag, geometryTag], IsSimpleName tag.toList := by
      decide
    exact hall e.tag h.tag
  names := h.names
  text := by simp [h.text]

theorem IsDrawn.tag_ne_pageTag {e : Element} (h : IsDrawn e) : e.tag ≠ pageTag := by
  intro heq
  exact absurd (heq ▸ h.tag) (by decide)

theorem IsDrawn.isUnmixed {e : Element} (h : IsDrawn e) : e.IsUnmixed :=
  .inl h.text

/-- The attributes of an element are checked by their names, which are known. -/
theorem all_isDrawn_element {tag : String} {attributes : List (String × String)}
    {children : List Element} (names : List String) (heq : attributes.map Prod.fst = names)
    (htag : tag ∈ [modelTag, rootTag, cellTag, geometryTag]) (hnames : ArePlainNames names)
    (hchildren : ∀ e ∈ children, e.All IsDrawn) :
    (element tag attributes children).All IsDrawn :=
  Element.all_mk.2 ⟨⟨htag, heq ▸ hnames, rfl⟩, hchildren⟩

theorem all_isDrawn_geometryElement (box : Geometry) : (geometryElement box).All IsDrawn :=
  all_isDrawn_element ["x", "y", "width", "height", "as"] rfl (by decide) (by decide) (by simp)

theorem all_isDrawn_vertexCell (id label style parent : String) (box : Option Geometry) :
    (vertexCell id label style parent box).All IsDrawn := by
  refine all_isDrawn_element ["id", "value", "style", "vertex", "parent"] rfl (by decide)
    (by decide) fun e he => ?_
  obtain ⟨box, -, rfl⟩ := Option.map_eq_some_iff.1 (Option.mem_toList.1 he)
  exact all_isDrawn_geometryElement box

theorem all_isDrawn_edgeCell (id source target : String) (e : Edge) :
    (edgeCell id source target e).All IsDrawn := by
  refine all_isDrawn_element ["id", "value", "style", "edge", "parent", "source", "target"] rfl
    (by decide) (by decide) fun box hbox => ?_
  rw [List.mem_singleton.1 hbox]
  exact all_isDrawn_element ["relative", "as"] rfl (by decide) (by decide) (by simp)

theorem all_isDrawn_nodeCells (cellId : String) (n : Node) :
    ∀ e ∈ nodeCells cellId n, e.All IsDrawn := by
  intro e he
  rw [nodeCells] at he
  split at he
  · rcases List.mem_cons.1 he with rfl | he
    · exact all_isDrawn_vertexCell _ _ _ _ _
    · obtain ⟨⟨m, i⟩, -, rfl⟩ := List.mem_map.1 he
      exact all_isDrawn_vertexCell _ _ _ _ _
  · rw [List.mem_singleton.1 he]
    exact all_isDrawn_vertexCell _ _ _ _ _

theorem all_isDrawn_modelOfPlaced (g : Graph) : (modelOfPlaced g).All IsDrawn := by
  refine all_isDrawn_element [] rfl (by decide) (by decide) fun root hroot => ?_
  rw [List.mem_singleton.1 hroot]
  refine all_isDrawn_element [] rfl (by decide) (by decide) fun e he => ?_
  rw [List.mem_append, List.mem_append] at he
  rcases he with (he | he) | he
  · simp only [rootCells, List.mem_cons, List.not_mem_nil, or_false] at he
    rcases he with rfl | rfl
    · exact all_isDrawn_element ["id"] rfl (by decide) (by decide) (by simp)
    · exact all_isDrawn_element ["id", "parent"] rfl (by decide) (by decide) (by simp)
  · obtain ⟨n, -, he⟩ := List.mem_flatMap.1 he
    exact all_isDrawn_nodeCells _ n e he
  · obtain ⟨⟨e, cellId⟩, -, rfl⟩ := List.mem_map.1 he
    exact all_isDrawn_edgeCell _ _ _ e

theorem all_isTidy_modelOfPlaced (g : Graph) : (modelOfPlaced g).All Element.IsTidy :=
  fun e he => (all_isDrawn_modelOfPlaced g e he).isTidy

theorem all_isUnmixed_modelOfPlaced (g : Graph) : (modelOfPlaced g).All Element.IsUnmixed :=
  fun e he => (all_isDrawn_modelOfPlaced g e he).isUnmixed

theorem all_tag_ne_pageTag_modelOfPlaced (g : Graph) :
    (modelOfPlaced g).All (·.tag ≠ pageTag) :=
  fun e he => (all_isDrawn_modelOfPlaced g e he).tag_ne_pageTag

/-! ## Legal values -/

theorem isLegal_escape_iff {s : List Char} :
    (∀ c ∈ Html.escape s, isXmlChar c = true) ↔ ∀ c ∈ s, isXmlChar c = true := by
  have hchar : ∀ c, (∀ d ∈ Html.escapeChar c, isXmlChar d = true) ↔ isXmlChar c = true := by
    intro c
    rcases escapeChar_cases c with ⟨rfl, he⟩ | ⟨rfl, he⟩ | ⟨rfl, he⟩ | ⟨-, -, he⟩
    · rw [he]
      decide
    · rw [he]
      decide
    · rw [he]
      decide
    · rw [he]
      simp
  constructor
  · exact fun h c hc => (hchar c).1 fun d hd => h d (List.mem_flatMap.2 ⟨c, hc, hd⟩)
  · intro h d hd
    obtain ⟨c, hc, hd⟩ := List.mem_flatMap.1 hd
    exact (hchar c).2 (h c hc) d hd

/-- The value of a cell has an illegal character if and only if the label has. -/
theorem isLegal_cellValueString_iff {s : String} : IsLegal (cellValueString s) ↔ IsLegal s := by
  have hlines : (∀ l ∈ lines s.toList, ∀ c ∈ l, isXmlChar c = true) ↔ IsLegal s := by
    constructor
    · intro h c hc
      rw [← unlines_lines s.toList] at hc
      rcases mem_intercalate hc with hc | ⟨l, hl, hc⟩
      · rw [List.mem_singleton.1 hc]
        decide
      · exact h l hl c hc
    · intro h l hl c hc
      refine h c ?_
      rw [← unlines_lines s.toList]
      exact mem_unlines hl hc
  rw [← hlines]
  simp only [IsLegal, cellValueString, onChars, String.toList_ofList, cellValue]
  constructor
  · intro h l hl
    refine isLegal_escape_iff.1 fun c hc => h c ?_
    exact mem_intercalate_of_mem _ (List.mem_map_of_mem hl) hc
  · intro h c hc
    rcases mem_intercalate hc with hc | ⟨l, hl, hc⟩
    · have hbreak : ∀ c ∈ "<br>".toList, isXmlChar c = true := by decide
      exact hbreak c hc
    · obtain ⟨m, hm, rfl⟩ := List.mem_map.1 hl
      exact isLegal_escape_iff.2 (h m hm) c hc

theorem all_hasLegalValues_element {tag : String} {attributes : List (String × String)}
    {children : List Element} : (element tag attributes children).All Element.HasLegalValues ↔
      (∀ value ∈ attributes.map Prod.snd, IsLegal value) ∧
        ∀ e ∈ children, e.All Element.HasLegalValues :=
  Element.all_mk

theorem all_hasLegalValues_geometryElement (box : Geometry) :
    (geometryElement box).All Element.HasLegalValues := by
  have hword : IsLegal "geometry" := by decide
  refine all_hasLegalValues_element.2 ⟨?_, by simp⟩
  simp only [List.map_cons, List.map_nil, List.forall_mem_cons]
  exact ⟨isLegal_coordText _, isLegal_coordText _, isLegal_coordText _, isLegal_coordText _, hword,
    by simp⟩

theorem all_hasLegalValues_vertexCell {id label style parent : String} {box : Option Geometry} :
    (vertexCell id label style parent box).All Element.HasLegalValues ↔
      IsLegal id ∧ IsLegal label ∧ IsLegal style ∧ IsLegal parent := by
  have hone : IsLegal "1" := by decide
  have hbox : ∀ e ∈ (box.map geometryElement).toList, e.All Element.HasLegalValues := by
    intro e he
    obtain ⟨box, -, rfl⟩ := Option.map_eq_some_iff.1 (Option.mem_toList.1 he)
    exact all_hasLegalValues_geometryElement box
  rw [vertexCell, all_hasLegalValues_element, and_iff_left hbox]
  simp [isLegal_cellValueString_iff, hone]

theorem isLegal_vertexStyle (shape : Shape) : IsLegal (vertexStyle shape) := by
  have hall : ∀ shape ∈ Shape.all, IsLegal (vertexStyle shape) := by decide +kernel
  exact hall shape shape.mem_all

theorem isLegal_edgeStyle (lineStyle : LineStyle) (arrowEnd : Bool) (relation : Option Relation) :
    IsLegal (edgeStyle lineStyle arrowEnd relation) := by
  have hbase : IsLegal baseEdgeStyle := by decide +kernel
  have hline : IsLegal (lineSettings lineStyle) := by cases lineStyle <;> decide
  cases relation with
  | some relation =>
      have hrelation : IsLegal (relationSettings relation) := by cases relation <;> decide
      exact hbase.append hrelation
  | none =>
      have harrow : IsLegal (if arrowEnd then "" else "endArrow=none;") := by
        cases arrowEnd <;> decide
      exact (hbase.append hline).append harrow

theorem all_hasLegalValues_edgeCell {id source target : String} {e : Edge} :
    (edgeCell id source target e).All Element.HasLegalValues ↔
      IsLegal id ∧ IsLegal e.label ∧ IsLegal source ∧ IsLegal target := by
  have hone : IsLegal "1" := by decide
  have hbox : ∀ box ∈ [element geometryTag [("relative", "1"), ("as", "geometry")] []],
      box.All Element.HasLegalValues := by
    intro box hbox
    rw [List.mem_singleton.1 hbox]
    exact all_hasLegalValues_element.2 ⟨by decide, by simp⟩
  rw [edgeCell, all_hasLegalValues_element, and_iff_left hbox]
  simp [isLegal_cellValueString_iff, isLegal_edgeStyle, hone]

theorem all_hasLegalValues_nodeCells {cellId : String} {n : Node} :
    (∀ e ∈ nodeCells cellId n, e.All Element.HasLegalValues) ↔
      IsLegal cellId ∧ IsLegal n.label ∧ (n.kind = .classLike → ∀ m ∈ n.members, IsLegal m) := by
  have hone : IsLegal "1" := by decide
  have hmember : IsLegal "-member-" := by decide
  have hstyle : IsLegal memberStyle := by decide +kernel
  rw [nodeCells]
  split_ifs with hrows
  · rw [classCells, List.forall_mem_cons, all_hasLegalValues_vertexCell, List.forall_mem_map]
    simp only [memberCell, all_hasLegalValues_vertexCell, isLegal_vertexStyle, hone, hstyle,
      true_and, and_true, hrows.1, forall_const]
    constructor
    · rintro ⟨⟨hid, hlabel⟩, hmembers⟩
      refine ⟨hid, hlabel, fun m hm => ?_⟩
      rw [← List.zipIdx_map_fst 0 n.members] at hm
      obtain ⟨p, hp, rfl⟩ := List.mem_map.1 hm
      exact (hmembers p hp).2.1
    · rintro ⟨hid, hlabel, hmembers⟩
      refine ⟨⟨hid, hlabel⟩, fun p hp => ⟨?_, hmembers _ (List.fst_mem_of_mem_zipIdx hp), hid⟩⟩
      exact (hid.append hmember).append (isLegal_decimalString p.2)
  · have hnone : n.kind = .classLike → ∀ m ∈ n.members, IsLegal m := by
      intro hkind m hm
      exact absurd ⟨hkind, List.ne_nil_of_mem hm⟩ hrows
    rw [List.forall_mem_singleton, all_hasLegalValues_vertexCell,
      and_iff_left (⟨isLegal_vertexStyle n.shape, hone⟩ : IsLegal _ ∧ IsLegal _)]
    simp only [and_iff_left hnone]

theorem all_hasLegalValues_rootCells : ∀ e ∈ rootCells, e.All Element.HasLegalValues := by
  intro e he
  simp only [rootCells, List.mem_cons, List.not_mem_nil, or_false] at he
  rcases he with rfl | rfl
  · exact all_hasLegalValues_element.2 ⟨by decide, by simp⟩
  · exact all_hasLegalValues_element.2 ⟨by decide, by simp⟩

/-! ## Legal graph models -/

theorem isLegal_cellIdOf_iff {g : Graph} {id : String} (hid : id ∈ g.nodeIds) :
    IsLegal (cellIdOf g id) ↔ IsLegal id := by
  constructor
  · exact fun h c hc => h c (mem_lookupCellId_of_mem g.nodup hid hc)
  · intro h c hc
    exact ((isMadeOf_lookupCellId g.nodup hid).chars c hc).elim (h c) isXmlChar_of_isWord

theorem all_hasLegalValues_edgeCells {g : Graph} (hends : ∀ id ∈ g.nodeIds, IsLegal id) :
    (∀ e ∈ edgeCells (cellIds g.nodeIds) g.validEdges, e.All Element.HasLegalValues) ↔
      (∀ id ∈ edgeCellIds g, IsLegal id) ∧ ∀ e ∈ g.validEdges, IsLegal e.label := by
  have hlength : (edgeCellIds g).length = g.validEdges.length := by
    rw [edgeCellIds, length_assignEdgeIds, List.length_map]
  have hcell : ∀ p ∈ g.validEdges.zip (edgeCellIds g),
      ((edgeCell p.2 (cellIdOf g p.1.source) (cellIdOf g p.1.target) p.1).All
        Element.HasLegalValues ↔ IsLegal p.2 ∧ IsLegal p.1.label) := by
    intro p hp
    obtain ⟨-, hsource, htarget⟩ := Graph.mem_validEdges.1 (List.of_mem_zip hp).1
    rw [all_hasLegalValues_edgeCell, isLegal_cellIdOf_iff hsource, isLegal_cellIdOf_iff htarget,
      ← and_assoc, and_iff_left ⟨hends _ hsource, hends _ htarget⟩]
  rw [edgeCells, List.forall_mem_map]
  constructor
  · intro h
    have hall : ∀ p ∈ g.validEdges.zip (edgeCellIds g), IsLegal p.2 ∧ IsLegal p.1.label :=
      fun p hp => (hcell p hp).1 (h p hp)
    constructor
    · intro id hid
      rw [← List.map_snd_zip (Nat.le_of_eq hlength)] at hid
      obtain ⟨p, hp, rfl⟩ := List.mem_map.1 hid
      exact (hall p hp).1
    · intro e he
      rw [← List.map_fst_zip (Nat.le_of_eq hlength.symm)] at he
      obtain ⟨p, hp, rfl⟩ := List.mem_map.1 he
      exact (hall p hp).2
  · rintro ⟨hids, hlabels⟩ p hp
    exact (hcell p hp).2 ⟨hids _ (List.of_mem_zip hp).2, hlabels _ (List.of_mem_zip hp).1⟩

/-- The values in a graph model are legal if and only if the texts that it shows are. -/
theorem all_hasLegalValues_modelOfPlaced {g : Graph} :
    (modelOfPlaced g).All Element.HasLegalValues ↔
      (∀ n ∈ g.nodes, IsLegal n.id ∧ IsLegal n.label ∧
        (n.kind = .classLike → ∀ m ∈ n.members, IsLegal m)) ∧
      (∀ id ∈ edgeCellIds g, IsLegal id) ∧ ∀ e ∈ g.validEdges, IsLegal e.label := by
  have hnodes : (∀ n ∈ g.nodes, ∀ e ∈ nodeCells (cellIdOf g n.id) n, e.All Element.HasLegalValues) ↔
      ∀ n ∈ g.nodes, IsLegal n.id ∧ IsLegal n.label ∧
        (n.kind = .classLike → ∀ m ∈ n.members, IsLegal m) := by
    refine forall₂_congr fun n hn => ?_
    rw [all_hasLegalValues_nodeCells, isLegal_cellIdOf_iff (List.mem_map_of_mem hn)]
  have hcells : (modelOfPlaced g).All Element.HasLegalValues ↔
      (∀ n ∈ g.nodes, ∀ e ∈ nodeCells (cellIdOf g n.id) n, e.All Element.HasLegalValues) ∧
        ∀ e ∈ edgeCells (cellIds g.nodeIds) g.validEdges, e.All Element.HasLegalValues := by
    simp only [modelOfPlaced, all_hasLegalValues_element, List.map_nil, List.not_mem_nil,
      false_implies, implies_true, true_and, List.mem_singleton, forall_eq, List.mem_append,
      or_imp, forall_and, List.mem_flatMap, forall_exists_index, and_imp]
    rw [and_iff_right all_hasLegalValues_rootCells]
    exact and_congr_left' ⟨fun h n hn e he => h e n hn he, fun h e n hn he => h n hn e he⟩
  rw [hcells, hnodes]
  refine and_congr_right fun h => all_hasLegalValues_edgeCells fun id hid => ?_
  obtain ⟨n, hn, rfl⟩ := List.mem_map.1 hid
  exact (h n hn).1

/-- No text of the graph has a character that a document may not have. -/
structure HasLegalTexts (g : Graph) : Prop where
  ids : ∀ n ∈ g.nodes, IsLegal n.id
  labels : ∀ n ∈ g.nodes, IsLegal n.label
  members : ∀ n ∈ g.nodes, ∀ m ∈ n.members, IsLegal m
  edgeIds : ∀ e ∈ g.edges, IsLegal e.id
  edgeLabels : ∀ e ∈ g.edges, IsLegal e.label

section Model

variable {g : Graph}

theorem isLegal_of_mem_edgeCellIds (h : ∀ e ∈ g.edges, IsLegal e.id) {id : String}
    (hid : id ∈ edgeCellIds g) : IsLegal id := by
  intro c hc
  obtain ⟨i, hi, hmade⟩ := exists_isMadeOf_of_mem_assignEdgeIds hid
  rcases hmade.chars c hc with hc | hc
  · obtain ⟨e, he, rfl⟩ := List.mem_map.1 hi
    exact h e (List.mem_filter.1 he).1 c hc
  · exact isXmlChar_of_isWord hc

/-- A graph with legal texts is written as a plain element. -/
theorem isPlain_modelOfPlaced (h : HasLegalTexts g) : (modelOfPlaced g).IsPlain := by
  refine Element.isPlain_iff.2 ⟨all_isTidy_modelOfPlaced g,
    all_hasLegalValues_modelOfPlaced.2 ⟨fun n hn => ?_, fun id hid => ?_, fun e he => ?_⟩⟩
  · exact ⟨h.ids n hn, h.labels n hn, fun _ => h.members n hn⟩
  · exact isLegal_of_mem_edgeCellIds h.edgeIds hid
  · exact h.edgeLabels e (Graph.mem_validEdges.1 he).1

/-- The layout leaves the texts alone. -/
theorem HasLegalTexts.layout (h : HasLegalTexts g) : HasLegalTexts g.layout where
  ids n hn := by
    obtain ⟨m, hm, box, rfl⟩ := Graph.exists_of_mem_layout hn
    exact h.ids m hm
  labels n hn := by
    obtain ⟨m, hm, box, rfl⟩ := Graph.exists_of_mem_layout hn
    exact h.labels m hm
  members n hn := by
    obtain ⟨m, hm, box, rfl⟩ := Graph.exists_of_mem_layout hn
    exact h.members m hm
  edgeIds := h.edgeIds
  edgeLabels := h.edgeLabels

/-- A graph whose drawing shows all of its texts: every edge is drawn, and members stand in classes
alone. The ids of edges may give way to others, so they are legal to begin with. -/
structure IsWhollyShown (g : Graph) : Prop where
  valid : g.validEdges = g.edges
  edgeIds : ∀ e ∈ g.edges, IsLegal e.id
  members : ∀ n ∈ g.nodes, n.members ≠ [] → n.kind = .classLike

theorem IsWhollyShown.all_hasLegalValues_iff (hshown : IsWhollyShown g) :
    (model g).All Element.HasLegalValues ↔ HasLegalTexts g := by
  constructor
  · intro h
    obtain ⟨hnodes, -, hlabels⟩ := all_hasLegalValues_modelOfPlaced.1 h
    have hnode : ∀ n ∈ g.nodes, IsLegal n.id ∧ IsLegal n.label ∧
        (n.kind = .classLike → ∀ m ∈ n.members, IsLegal m) := by
      intro n hn
      obtain ⟨box, hbox⟩ := Graph.exists_mem_layout_of_mem hn
      exact hnodes { n with geometry := box } hbox
    rw [Graph.validEdges_layout, hshown.valid] at hlabels
    refine ⟨fun n hn => (hnode n hn).1, fun n hn => (hnode n hn).2.1, fun n hn m hm => ?_,
      hshown.edgeIds, hlabels⟩
    exact (hnode n hn).2.2 (hshown.members n hn (List.ne_nil_of_mem hm)) m hm
  · exact fun h => (Element.isPlain_iff.1 (isPlain_modelOfPlaced h.layout)).2

end Model

end DiagramBridge.Drawio
