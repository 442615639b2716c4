import DiagramBridge.Drawio.Extraction
import DiagramBridge.Proofs.Diagram.Invariant
import Mathlib.Data.List.Nodup

/-!
# What is extracted from cells with distinct ids

When no two cells of a page share an id, every lookup by id finds the cell itself, so what a cell
becomes depends on the other cells only through its children and its parent. Every cell gives a node
or an edge or nothing, and perhaps a subgraph besides; the graph has them in the order of the cells.
-/

namespace DiagramBridge.Drawio

open Text Xml

/-! ## Cells that are read -/

theorem ne_empty_of_nonEmpty? {s : Option String} {t : String} (h : nonEmpty? s = some t) :
    t ≠ "" := by
  rw [nonEmpty?.eq_def] at h
  split at h
  · exact absurd h (by simp)
  case h_2 hne => exact fun heq => hne (heq ▸ h)

theorem id_ne_empty_of_ofElement? {e : Element} {inner : Option Element} {c : Cell}
    (h : c ∈ (Cell.ofElement? e inner).toList) : c.id ≠ "" := by
  rw [Option.mem_toList, Cell.ofElement?] at h
  obtain ⟨id, hid, hc⟩ := Option.bind_eq_some_iff.1 h
  obtain rfl := Option.some.inj hc
  exact ne_empty_of_nonEmpty? hid

mutual

theorem id_ne_empty_of_mem_cellsOf (isWrapped : Bool) :
    ∀ (e : Element), ∀ c ∈ cellsOf isWrapped e, c.id ≠ ""
  | .mk tag attributes text children => by
      intro c hc
      rw [cellsOf] at hc
      split at hc
      · rcases List.mem_append.1 hc with hc | hc
        · exact id_ne_empty_of_ofElement? hc
        · exact id_ne_empty_of_mem_cellsOfChildren true children c hc
      · split at hc
        · rcases List.mem_append.1 hc with hc | hc
          · exact id_ne_empty_of_ofElement? hc
          · exact id_ne_empty_of_mem_cellsOfChildren false children c hc
        · exact id_ne_empty_of_mem_cellsOfChildren false children c hc

theorem id_ne_empty_of_mem_cellsOfChildren (skipsFirst : Bool) :
    ∀ (es : List Element), ∀ c ∈ cellsOfChildren skipsFirst es, c.id ≠ ""
  | [] => by simp [cellsOfChildren]
  | e :: es => by
      intro c hc
      rw [cellsOfChildren] at hc
      rcases List.mem_append.1 hc with hc | hc
      · exact id_ne_empty_of_mem_cellsOf _ e c hc
      · exact id_ne_empty_of_mem_cellsOfChildren _ es c hc

end

/-- Every cell has an id of its own. -/
structure HasOwnIds (cells : List Cell) : Prop where
  nonempty : ∀ c ∈ cells, c.id ≠ ""
  nodup : (cells.map Cell.id).Nodup

/-- Of cells that are read it is enough to ask that no two share an id. -/
theorem hasOwnIds_cells_iff (model : Element) :
    HasOwnIds (cells model) ↔ ((cells model).map Cell.id).Nodup :=
  ⟨HasOwnIds.nodup, fun h => ⟨id_ne_empty_of_mem_cellsOf false model, h⟩⟩

/-! ## Nodes and edges -/

/-- The node that a cell becomes. -/
def nodeOf? (cells : List Cell) (c : Cell) : Option Node :=
  match roleOf cells c with
  | .group group =>
    some
      { id := c.id
        label := group.title
        shape := .classBox
        kind := .classLike
        members := group.members
        geometry := some c.geometry
        style := c.style }
  | .node =>
    some
      { id := c.id
        label := cleanString c.value
        shape := shapeOf c.style
        geometry := some c.geometry
        style := c.style }
  | .consumed | .edgeLabel | .edge | .nothing => none

/-- The edge that a cell becomes. -/
def edgeOf? (cells : List Cell) (c : Cell) : Option Edge :=
  match roleOf cells c with
  | .edge =>
    some
      { id := c.id
        source := c.source.getD ""
        target := c.target.getD ""
        label := foldedLabel cells c
        lineStyle := lineStyleOf c.style
        arrowEnd := hasEndArrow c.style
        style := c.style }
  | .consumed | .group _ | .edgeLabel | .node | .nothing => none

theorem id_of_nodeOf? {cells : List Cell} {c : Cell} {n : Node} (h : nodeOf? cells c = some n) :
    n.id = c.id := by
  rw [nodeOf?] at h
  split at h <;> simp only [Option.some.injEq, reduceCtorEq] at h
  · exact h ▸ rfl
  · exact h ▸ rfl

/-! ## One cell -/

theorem nodes_addCell (cells : List Cell) {g : Graph} {c : Cell} (h : g.hasNode c.id = false) :
    (addCell cells g c).nodes = g.nodes ++ (nodeOf? cells c).toList := by
  rw [addCell, nodeOf?]
  cases roleOf cells c with
  | group group =>
      dsimp only
      rw [Graph.nodes_mention_of_new]
      · rfl
      · exact h
  | node =>
      dsimp only
      rw [Graph.nodes_mention_of_new]
      · rfl
      · exact h
  | edge => exact (List.append_nil _).symm
  | consumed => exact (List.append_nil _).symm
  | edgeLabel => exact (List.append_nil _).symm
  | nothing => exact (List.append_nil _).symm

theorem edges_addCell {cells : List Cell} {g : Graph} {c : Cell} (h : c.id ≠ "") :
    (addCell cells g c).edges = g.edges ++ (edgeOf? cells c).toList := by
  rw [addCell, edgeOf?]
  cases roleOf cells c with
  | group group => simp
  | node => simp
  | edge => simp [Graph.edgeOf, h]
  | consumed => simp
  | edgeLabel => simp
  | nothing => simp

/-! ## All cells -/

/-- Cells with new ids append their nodes. -/
theorem nodes_foldl_addCell (cells : List Cell) {cs : List Cell} {g : Graph}
    (hnodup : (cs.map Cell.id).Nodup) (hnew : ∀ c ∈ cs, g.hasNode c.id = false) :
    (cs.foldl (addCell cells) g).nodes = g.nodes ++ cs.filterMap (nodeOf? cells) := by
  induction cs generalizing g with
  | nil => simp
  | cons c cs ih =>
      obtain ⟨hc, hcs⟩ := List.nodup_cons.1 hnodup
      have hnodes := nodes_addCell cells (hnew c (by simp))
      have hstill : ∀ d ∈ cs, (addCell cells g c).hasNode d.id = false := by
        intro d hd
        have hne : d.id ≠ c.id := fun heq => hc (heq ▸ List.mem_map_of_mem hd)
        rw [Graph.hasNode_eq_false_iff, hnodes]
        intro n hn
        rcases List.mem_append.1 hn with hn | hn
        · exact Graph.hasNode_eq_false_iff.1 (hnew d (by simp [hd])) n hn
        · rw [id_of_nodeOf? (Option.mem_toList.1 hn)]
          exact hne.symm
      rw [List.foldl_cons, ih hcs hstill, hnodes, List.append_assoc]
      cases h : nodeOf? cells c <;> simp [h]

/-- Cells with ids append their edges. -/
theorem edges_foldl_addCell (cells : List Cell) {cs : List Cell} {g : Graph}
    (hne : ∀ c ∈ cs, c.id ≠ "") :
    (cs.foldl (addCell cells) g).edges = g.edges ++ cs.filterMap (edgeOf? cells) := by
  induction cs generalizing g with
  | nil => simp
  | cons c cs ih =>
      rw [List.foldl_cons, ih fun d hd => hne d (by simp [hd]), edges_addCell (hne c (by simp)),
        List.append_assoc]
      cases h : edgeOf? cells c <;> simp [h]

/-- The nodes of a page, in the order of the cells. -/
theorem nodes_extract {cells : List Cell} (hnodup : (cells.map Cell.id).Nodup) :
    (extract cells).nodes = cells.filterMap (nodeOf? cells) := by
  have h := nodes_foldl_addCell cells (g := .empty) hnodup fun c _ => rfl
  simp only [extract]
  rw [Graph.nodes_foldl_addSubgraph, h]
  rfl

/-- The edges of a page, in the order of the cells. -/
theorem edges_extract {cells : List Cell} (hne : ∀ c ∈ cells, c.id ≠ "") :
    (extract cells).edges = cells.filterMap (edgeOf? cells) := by
  have h := edges_foldl_addCell cells (g := .empty) hne
  simp only [extract]
  rw [Graph.edges_foldl_addSubgraph, h]
  rfl

theorem subgraphs_addCell (cells : List Cell) (g : Graph) (c : Cell) :
    (addCell cells g c).subgraphs = g.subgraphs := by
  rw [addCell]
  cases roleOf cells c with
  | group group => exact Graph.subgraphs_mention g _
  | node => exact Graph.subgraphs_mention g _
  | edge => rfl
  | consumed => rfl
  | edgeLabel => rfl
  | nothing => rfl

theorem subgraphs_foldl_addCell (cells cs : List Cell) (g : Graph) :
    (cs.foldl (addCell cells) g).subgraphs = g.subgraphs := by
  induction cs generalizing g with
  | nil => rfl
  | cons c cs ih => rw [List.foldl_cons, ih, subgraphs_addCell]

/-- The subgraphs of a page, in the order of the cells. -/
theorem subgraphs_extract (cells : List Cell) :
    (extract cells).subgraphs = cells.filterMap (subgraphOf? cells (extract cells)) := by
  have hhas : (extract cells).hasNode = (cells.foldl (addCell cells) .empty).hasNode := by
    funext id
    rw [Graph.hasNode, Graph.hasNode, extract, Graph.nodes_foldl_addSubgraph]
  have hsubgraphOf : subgraphOf? cells (extract cells) =
      subgraphOf? cells (cells.foldl (addCell cells) .empty) := by
    funext c
    rw [subgraphOf?, subgraphOf?, hhas]
  rw [hsubgraphOf, extract, Graph.subgraphs_foldl_addSubgraph, subgraphs_foldl_addCell]
  rfl

/-! ## Boxes -/

theorem geometry_ne_none_addCell (cells : List Cell) {g : Graph}
    (h : ∀ n ∈ g.nodes, n.geometry ≠ none) (c : Cell) :
    ∀ n ∈ (addCell cells g c).nodes, n.geometry ≠ none := by
  have hmention (m : Mention) (hm : m.geometry ≠ none) :
      ∀ n ∈ (g.mention m).nodes, n.geometry ≠ none := by
    intro n hn
    rcases Graph.mem_nodes_mention hn with hn | rfl | ⟨k, hk, label, -, rfl⟩
    · exact h n hn
    · exact hm
    · exact h k hk
  rw [addCell]
  cases roleOf cells c with
  | group group => exact hmention _ (by simp)
  | node => exact hmention _ (by simp)
  | edge => exact h
  | consumed => exact h
  | edgeLabel => exact h
  | nothing => exact h

/-- Every node of a page has a box, also where cells share ids. -/
theorem geometry_ne_none_of_mem_extract {cells : List Cell} {n : Node}
    (hn : n ∈ (extract cells).nodes) : n.geometry ≠ none := by
  have hrun (cs : List Cell) : ∀ g : Graph, (∀ n ∈ g.nodes, n.geometry ≠ none) →
      ∀ n ∈ (cs.foldl (addCell cells) g).nodes, n.geometry ≠ none := by
    induction cs with
    | nil => exact fun g h => h
    | cons c cs ih => exact fun g h => ih _ (geometry_ne_none_addCell cells h c)
  rw [extract, Graph.nodes_foldl_addSubgraph] at hn
  exact hrun cells .empty (by simp [Graph.empty]) n hn

/-! ## Labels of edges -/

/-- The cells whose texts are added to the label of an edge, in document order. -/
def foldedCells (cells : List Cell) (id : String) : List Cell :=
  cells.filter fun c => roleOf cells c = .edgeLabel && c.parent == some id

theorem mem_textsOf {cells : List Cell} {c : Cell} (hc : c ∈ cells)
    (h : cleanString c.value ≠ "") : cleanString c.value ∈ textsOf cells :=
  List.mem_filter.2 ⟨List.mem_map_of_mem hc, by simpa using h⟩

theorem foldedLabel_eq (cells : List Cell) (c : Cell) : foldedLabel cells c =
    String.intercalate " " (textsOf (c :: foldedCells cells c.id)) := by
  have htexts : labelTexts cells c.id = textsOf (foldedCells cells c.id) := rfl
  have hfilter : (textsOf (foldedCells cells c.id)).filter (· != "") =
      textsOf (foldedCells cells c.id) := by
    rw [textsOf, List.filter_filter]
    simp only [Bool.and_self]
  have hcons : textsOf (c :: foldedCells cells c.id) =
      (cleanString c.value :: textsOf (foldedCells cells c.id)).filter (· != "") := by
    rw [List.filter_cons, hfilter, textsOf, List.map_cons, List.filter_cons]
    rfl
  rw [foldedLabel, htexts, hcons]

/-! ## Lookup by id -/

theorem mem_of_cellById?_eq_some {cells : List Cell} {id : String} {c : Cell}
    (h : cellById? cells id = some c) : c ∈ cells ∧ c.id = id :=
  ⟨List.mem_reverse.1 (List.mem_of_find?_eq_some h), by simpa using List.find?_some h⟩

theorem exists_of_groupById?_eq_some {cells : List Cell} {id : String} {g : Group}
    (h : groupById? cells id = some g) : ∃ c ∈ cells, c.id = id ∧ groupOf? cells c = some g := by
  obtain ⟨c, hc, hgroup⟩ := List.exists_of_findSome?_eq_some h
  rw [List.mem_filter, List.mem_reverse] at hc
  exact ⟨c, hc.1, by simpa using hc.2, hgroup⟩

section Distinct

variable {cells : List Cell} (hnodup : (cells.map Cell.id).Nodup) {c : Cell} (hc : c ∈ cells)
include hnodup hc

theorem eq_of_id_eq {d : Cell} (hd : d ∈ cells) (h : d.id = c.id) : d = c :=
  List.inj_on_of_nodup_map hnodup hd hc h

theorem filter_id_eq_singleton : cells.filter (·.id == c.id) = [c] := by
  have hall : ∀ d ∈ cells.filter (·.id == c.id), d = c := by
    intro d hd
    obtain ⟨hd, heq⟩ := List.mem_filter.1 hd
    exact eq_of_id_eq hnodup hc hd (by simpa using heq)
  have hmem : c ∈ cells.filter (·.id == c.id) := List.mem_filter.2 ⟨hc, by simp⟩
  have hlist := List.eq_replicate_of_mem hall
  have hnd : (cells.filter (·.id == c.id)).Nodup := (List.Nodup.of_map _ hnodup).filter _
  rw [hlist] at hnd hmem
  have hle := List.nodup_replicate.1 hnd
  have hne := (List.mem_replicate.1 hmem).1
  rw [hlist, show (cells.filter (·.id == c.id)).length = 1 by omega]
  rfl

theorem groupById?_eq : groupById? cells c.id = groupOf? cells c := by
  have hfilter := filter_id_eq_singleton hnodup hc
  rw [groupById?, List.filter_reverse, hfilter]
  simp

theorem cellById?_eq : cellById? cells c.id = some c := by
  cases h : cellById? cells c.id with
  | none => exact absurd (List.find?_eq_none.1 h c (List.mem_reverse.2 hc)) (by simp)
  | some d =>
      obtain ⟨hd, heq⟩ := mem_of_cellById?_eq_some h
      rw [eq_of_id_eq hnodup hc hd heq]

omit hc in
theorem cellById?_eq_some_iff {id : String} {c : Cell} :
    cellById? cells id = some c ↔ c ∈ cells ∧ c.id = id := by
  constructor
  · exact mem_of_cellById?_eq_some
  · rintro ⟨hc, rfl⟩
    exact cellById?_eq hnodup hc

omit hc in
theorem groupById?_eq_some_iff {id : String} {g : Group} :
    groupById? cells id = some g ↔ ∃ c ∈ cells, c.id = id ∧ groupOf? cells c = some g := by
  constructor
  · exact exists_of_groupById?_eq_some
  · rintro ⟨c, hc, rfl, hgroup⟩
    rw [groupById?_eq hnodup hc, hgroup]

theorem isConsumed_eq : isConsumed cells c.id =
    (c.isVertex &&
      match c.parent with
      | some parent => parent != "" && !rootIds.contains parent && (groupById? cells parent).isSome
      | none => false) := by
  rw [isConsumed, Bool.eq_iff_iff, List.any_eq_true]
  constructor
  · rintro ⟨d, hd, h⟩
    rw [Bool.and_assoc, Bool.and_eq_true, beq_iff_eq] at h
    rw [← eq_of_id_eq hnodup hc hd h.1]
    exact h.2
  · intro h
    refine ⟨c, hc, ?_⟩
    rw [Bool.and_assoc, Bool.and_eq_true, beq_iff_eq]
    exact ⟨rfl, h⟩

end Distinct

end DiagramBridge.Drawio
