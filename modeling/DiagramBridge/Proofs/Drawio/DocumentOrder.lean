import DiagramBridge.Proofs.Drawio.Conservation
import Mathlib.Data.List.Perm.Basic
import Mathlib.Data.Finset.Dedup

/-!
# The order of the cells does not matter

A drawing may list parents before or after their children, and edges before or after the nodes that
they connect. With ids that are distinct and heights that are distinct among the rows of a class,
what a cell stands for depends on which cells there are and not on where they stand. Only the texts
that are added to the label of an edge keep the order in which they come.
-/

namespace DiagramBridge.Drawio

/-- The heights of some cells are numbers, and no two of them are equal. -/
structure HaveDistinctHeights (children : List Cell) : Prop where
  number : ∀ c ∈ children, c.geometry.y.toReal.isNaN = false
  pairwise : children.Pairwise fun a b =>
    a.geometry.y.toReal.lt b.geometry.y.toReal = true ∨
      b.geometry.y.toReal.lt a.geometry.y.toReal = true

/-- A subgraph whose nodes have no order. -/
def nodeSet (s : Subgraph) : String × String × Finset String :=
  (s.id, s.label, s.nodes.toFinset)

/-- Two graphs have the same nodes, edges and subgraphs, in whichever order. -/
structure HaveSameParts (g g' : Graph) : Prop where
  nodes : g.nodes.Perm g'.nodes
  edges : g.edges.Perm g'.edges
  subgraphs : (g.subgraphs.map nodeSet).Perm (g'.subgraphs.map nodeSet)

/-! ## One cell among cells in another order -/

/-- The visible cells of an edge that cannot be connected, in document order. -/
def labelCells (cells : List Cell) (id : String) : List Cell :=
  cells.filter fun c => isEdgeLabel cells c && c.parent == some id

theorem foldedCells_eq_filter (cells : List Cell) (id : String) : foldedCells cells id =
    (labelCells cells id).filter fun c => decide (roleOf cells c = .edgeLabel) := by
  rw [foldedCells, labelCells, List.filter_filter]
  refine List.filter_congr fun c _ => ?_
  cases hrole : decide (roleOf cells c = .edgeLabel) with
  | false => rfl
  | true => rw [isEdgeLabel_of_roleOf (of_decide_eq_true hrole), Bool.true_and, Bool.true_and]

section Order

variable {cells cells' : List Cell} (hperm : cells.Perm cells')
include hperm

theorem childrenOf_perm (id : String) : (childrenOf cells id).Perm (childrenOf cells' id) := by
  rw [childrenOf, childrenOf]
  split
  · exact List.Perm.nil
  · exact hperm.filter _

theorem cellById?_eq_of_perm (hnodup : (cells.map Cell.id).Nodup) (id : String) :
    cellById? cells id = cellById? cells' id := by
  have hnodup' := (hperm.map Cell.id).nodup_iff.1 hnodup
  ext c
  rw [cellById?_eq_some_iff hnodup, cellById?_eq_some_iff hnodup', hperm.mem_iff]

theorem isEdgeLabel_eq_of_perm (hnodup : (cells.map Cell.id).Nodup) (c : Cell) :
    isEdgeLabel cells c = isEdgeLabel cells' c := by
  rw [isEdgeLabel, isEdgeLabel, cellById?_eq_of_perm hperm hnodup]

theorem rows_eq_of_perm {p : Cell}
    (hheights : HaveDistinctHeights ((childrenOf cells p.id).filter (·.isVertex))) :
    rows cells p.id = rows cells' p.id :=
  sortByKey_eq_of_perm hheights.number ((childrenOf_perm hperm p.id).filter _) hheights.pairwise

variable (hnodup : (cells.map Cell.id).Nodup)
  (hrows : ∀ p ∈ cells, rows cells p.id = rows cells' p.id)
include hnodup hrows

theorem groupById?_eq_of_perm (id : String) : groupById? cells id = groupById? cells' id := by
  have hnodup' := (hperm.map Cell.id).nodup_iff.1 hnodup
  ext g
  rw [groupById?_eq_some_iff hnodup, groupById?_eq_some_iff hnodup']
  refine exists_congr fun p => ?_
  rw [← hperm.mem_iff]
  refine and_congr_right fun hp => ?_
  rw [groupOf?, groupOf?, hrows p hp]

theorem isConsumed_eq_of_perm (id : String) : isConsumed cells id = isConsumed cells' id := by
  rw [isConsumed, isConsumed, hperm.any_eq]
  simp only [groupById?_eq_of_perm hperm hnodup hrows]

theorem roleOf_eq_of_perm (c : Cell) : roleOf cells c = roleOf cells' c := by
  rw [roleOf, roleOf, isConsumed_eq_of_perm hperm hnodup hrows,
    groupById?_eq_of_perm hperm hnodup hrows, isEdgeLabel_eq_of_perm hperm hnodup]

theorem nodeOf?_eq_of_perm (c : Cell) : nodeOf? cells c = nodeOf? cells' c := by
  rw [nodeOf?, nodeOf?, roleOf_eq_of_perm hperm hnodup hrows]

/-- The order of its label cells is all that an edge depends on. -/
theorem edgeOf?_eq_of_perm {c : Cell}
    (hlabels : foldedCells cells c.id = foldedCells cells' c.id) :
    edgeOf? cells c = edgeOf? cells' c := by
  rw [edgeOf?, edgeOf?, roleOf_eq_of_perm hperm hnodup hrows, foldedLabel_eq, foldedLabel_eq,
    hlabels]

theorem map_nodeSet_subgraphOf?_of_perm {g g' : Graph} (hnodes : g.nodes.Perm g'.nodes) (c : Cell) :
    (subgraphOf? cells g c).map nodeSet = (subgraphOf? cells' g' c).map nodeSet := by
  have hchildren := childrenOf_perm hperm c.id
  have hhas : g.hasNode = g'.hasNode := by
    funext id
    rw [Graph.hasNode, Graph.hasNode, hnodes.any_eq]
  rw [subgraphOf?, subgraphOf?, hchildren.isEmpty_eq, groupById?_eq_of_perm hperm hnodup hrows]
  split
  · rfl
  · rw [Option.map_some, Option.map_some, nodeSet, nodeSet, hhas,
      List.toFinset_eq_of_perm _ _ ((hchildren.map _).filter _)]

/-- It is enough that no label cell of an edge passes another one. -/
theorem foldedCells_eq_of_perm {id : String} (hlabels : labelCells cells id = labelCells cells' id) :
    foldedCells cells id = foldedCells cells' id := by
  have hroles : roleOf cells = roleOf cells' :=
    funext (roleOf_eq_of_perm hperm hnodup hrows)
  rw [foldedCells_eq_filter, foldedCells_eq_filter, hlabels, hroles]

end Order

/-- **The order of the cells does not matter.** Where every cell has an id of its own and the rows
of every cell have heights of their own, cells in another order give the same nodes, edges and
subgraphs, if the label cells of each edge still come in the same order. -/
theorem extract_perm {cells cells' : List Cell} (hperm : cells.Perm cells')
    (hids : HasOwnIds cells)
    (hheights : ∀ p ∈ cells, HaveDistinctHeights ((childrenOf cells p.id).filter (·.isVertex)))
    (hlabels : ∀ e ∈ cells, foldedCells cells e.id = foldedCells cells' e.id) :
    HaveSameParts (extract cells) (extract cells') := by
  obtain ⟨hnonempty, hnodup⟩ := hids
  have hnodup' := (hperm.map Cell.id).nodup_iff.1 hnodup
  have hnonempty' : ∀ c ∈ cells', c.id ≠ "" := fun c hc => hnonempty c (hperm.mem_iff.2 hc)
  have hrows : ∀ p ∈ cells, rows cells p.id = rows cells' p.id :=
    fun p hp => rows_eq_of_perm hperm (hheights p hp)
  have hnodes : (extract cells).nodes.Perm (extract cells').nodes := by
    rw [nodes_extract hnodup, nodes_extract hnodup',
      List.filterMap_congr fun c _ => nodeOf?_eq_of_perm hperm hnodup hrows c]
    exact hperm.filterMap _
  refine ⟨hnodes, ?_, ?_⟩
  · rw [edges_extract hnonempty, edges_extract hnonempty',
      List.filterMap_congr fun e he => edgeOf?_eq_of_perm hperm hnodup hrows (hlabels e he)]
    exact hperm.filterMap _
  · rw [subgraphs_extract, subgraphs_extract, List.map_filterMap, List.map_filterMap,
      List.filterMap_congr fun c _ =>
        map_nodeSet_subgraphOf?_of_perm hperm hnodup hrows hnodes c]
    exact hperm.filterMap _

/-- The cells of `stackPage` with parts before wholes, and ends and labels before the edge. -/
def upturnedStackPage : List Cell :=
  [rowCell "pop" "stack" "pop" (.ofInt 56),
   { rowCell "verb" "link" "writes to" (.ofInt 0) with isConnectable := false },
   rowCell "log" "1" "Log" (.ofInt 0),
   { rowCell "time" "link" "at once" (.ofInt 1) with isConnectable := false },
   { blankCell "link" "1" with isEdge := true, source := some "stack", target := some "log" },
   rowCell "push" "stack" "push" (.ofInt 30),
   rowCell "stack" "1" "Stack" (.ofInt 0)]

theorem extract_perm_upturnedStackPage :
    HaveSameParts (extract stackPage) (extract upturnedStackPage) := by
  have hperm : stackPage.Perm upturnedStackPage := by decide
  have hids : HasOwnIds stackPage := ⟨by decide, by decide⟩
  have hheights : ∀ p ∈ stackPage,
      HaveDistinctHeights ((childrenOf stackPage p.id).filter (·.isVertex)) :=
    fun p hp => ⟨by revert p; decide, by revert p; decide +kernel⟩
  have hlabels : ∀ e ∈ stackPage, labelCells stackPage e.id = labelCells upturnedStackPage e.id := by
    decide
  exact extract_perm hperm hids hheights fun e he =>
    foldedCells_eq_of_perm hperm hids.nodup (fun p hp => rows_eq_of_perm hperm (hheights p hp))
      (hlabels e he)

end DiagramBridge.Drawio
