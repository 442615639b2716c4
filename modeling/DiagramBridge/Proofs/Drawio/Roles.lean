import DiagramBridge.Proofs.Drawio.DistinctIds
import DiagramBridge.Proofs.Drawio.Extraction
import DiagramBridge.Proofs.Drawio.Label
import DiagramBridge.Proofs.Drawio.Style
import DiagramBridge.Proofs.Drawio.WrittenCells

/-!
# What the cells of a written graph stand for

Among the cells of a written graph only those of members name another cell as their parent. So the
children of the cell of a class are the cells of its members, and no other cell has children: a
class with members is a group, every other node is a node by itself, the cells of members are
consumed by their groups, and what connects two cells is an edge.
-/

namespace DiagramBridge.Drawio

open Text

/-! ## Children -/

/-- Picking one item of a list by a test that only it passes. -/
theorem flatMap_ite_eq {α β : Type} [DecidableEq α] {l : List α} (hnodup : l.Nodup) {a : α}
    (ha : a ∈ l) (f : α → List β) : (l.flatMap fun b => if b = a then f b else []) = f a := by
  have hnone : ∀ s : List α, a ∉ s → (s.flatMap fun b => if b = a then f b else []) = [] := by
    intro s hs
    rw [List.flatMap_eq_nil_iff]
    intro b hb
    have hne : b ≠ a := by
      rintro rfl
      exact hs hb
    exact if_neg hne
  obtain ⟨s, t, rfl⟩ := List.append_of_mem ha
  have hsplit := List.nodup_middle.1 hnodup
  rw [List.nodup_cons, List.mem_append, not_or] at hsplit
  rw [List.flatMap_append, List.flatMap_cons, hnone s hsplit.1.1, hnone t hsplit.1.2, if_pos rfl,
    List.nil_append, List.append_nil]

theorem parent_of_mem_rowReadings {cellId : String} {n : Node} {c : Cell}
    (h : c ∈ rowReadings cellId n) : c.parent = some cellId := by
  obtain ⟨-, member, i, rfl⟩ := exists_of_mem_rowReadings h
  rfl

theorem isVertex_of_mem_rowReadings {cellId : String} {n : Node} {c : Cell}
    (h : c ∈ rowReadings cellId n) : c.isVertex = true := by
  obtain ⟨-, member, i, rfl⟩ := exists_of_mem_rowReadings h
  rfl

theorem ne_of_not_mem_rootIds {id : String} (h : id ∉ rootIds) : id ≠ "0" ∧ id ≠ "1" := by
  simpa [rootIds] using h

/-- The children of a cell are the cells of the members of the class that has its id. -/
theorem childrenOf_readings (g : Graph) {id : String} (hne : id ≠ "") (hroot : id ∉ rootIds) :
    childrenOf (readings g) id =
      g.nodes.flatMap fun n =>
        if cellIdOf g n.id = id then rowReadings (cellIdOf g n.id) n else [] := by
  obtain ⟨hzero, hone⟩ := ne_of_not_mem_rootIds hroot
  have hroots : rootReadings.filter (fun c => c.parent == some id) = [] := by
    simp [rootReadings, rootCell, hzero.symm]
  have hnodes : (nodeReadings g).filter (fun c => c.parent == some id) =
      g.nodes.flatMap fun n =>
        if cellIdOf g n.id = id then rowReadings (cellIdOf g n.id) n else [] := by
    rw [nodeReadings, List.filter_flatMap]
    refine List.flatMap_congr fun n _ => ?_
    have htitle : (titleReading (cellIdOf g n.id) n).parent = some "1" := rfl
    rw [List.filter_cons_of_neg (by rw [htitle]; simpa using hone.symm)]
    split
    · next heq =>
      refine List.filter_eq_self.2 fun c hc => ?_
      rw [parent_of_mem_rowReadings hc, heq, beq_self_eq_true]
    · next hother =>
      refine List.filter_eq_nil_iff.2 fun c hc => ?_
      rw [parent_of_mem_rowReadings hc]
      simpa using hother
  have hedges : (edgeReadings g).filter (fun c => c.parent == some id) = [] := by
    refine List.filter_eq_nil_iff.2 fun c hc => ?_
    obtain ⟨p, -, rfl⟩ := List.mem_map.1 hc
    simpa [connectingCell] using hone.symm
  rw [childrenOf, if_neg (by simpa [hne] using hroot), readings, List.filter_append,
    List.filter_append, hroots, hnodes, hedges, List.nil_append, List.append_nil]

theorem childrenOf_cellIdOf {g : Graph} {n : Node} (hn : n ∈ g.nodes) :
    childrenOf (readings g) (cellIdOf g n.id) = rowReadings (cellIdOf g n.id) n := by
  have hnodup : g.nodes.Nodup := List.Nodup.of_map _ g.nodup
  rw [childrenOf_readings g (cellIdOf_ne_empty hn) (cellIdOf_not_mem_rootIds hn)]
  refine Eq.trans (List.flatMap_congr fun m hm => ?_)
    (flatMap_ite_eq hnodup hn fun m => rowReadings (cellIdOf g m.id) m)
  have hiff : cellIdOf g m.id = cellIdOf g n.id ↔ m = n :=
    ⟨cellIdOf_injective hm hn, fun heq => heq ▸ rfl⟩
  simp only [hiff]

theorem childrenOf_eq_nil {g : Graph} {id : String} (hne : id ∉ nodeCellIds g) :
    childrenOf (readings g) id = [] := by
  by_cases hreserved : id = "" ∨ id ∈ rootIds
  · rw [childrenOf, if_pos (by simpa using hreserved)]
  · rw [not_or] at hreserved
    rw [childrenOf_readings g hreserved.1 hreserved.2, List.flatMap_eq_nil_iff]
    intro n hn
    have hother : cellIdOf g n.id ≠ id := by
      rintro rfl
      exact hne (List.mem_map_of_mem hn)
    exact if_neg hother

/-! ## Groups -/

/-- The members that come back for a class. -/
def returnedMembers (n : Node) : List String :=
  (n.members.map normalLabel).filter (· != "")

/-- The classes of a graph keep a title and a member as labels, and are no containers. -/
structure HasReadableClasses (g : Graph) : Prop where
  title : ∀ n ∈ g.nodes, HasRows n → normalLabel n.label ≠ ""
  shape : ∀ n ∈ g.nodes, HasRows n → n.shape ≠ .subgraph
  member : ∀ n ∈ g.nodes, HasRows n → ∃ m ∈ n.members, normalLabel m ≠ ""

theorem HasReadableClasses.returnedMembers_ne_nil {g : Graph} (h : HasReadableClasses g) {n : Node}
    (hn : n ∈ g.nodes) (hrows : HasRows n) : returnedMembers n ≠ [] := by
  obtain ⟨m, hm, hne⟩ := h.member n hn hrows
  exact List.ne_nil_of_mem (List.mem_filter.2 ⟨List.mem_map_of_mem hm, by simpa using hne⟩)

theorem value_rowReadings {cellId : String} {n : Node} (h : HasRows n) :
    (rowReadings cellId n).map Cell.value = n.members.map cellValueString := by
  rw [rowReadings, if_pos h, List.map_map]
  calc _ = n.members.zipIdx.map fun p => cellValueString p.1 := List.map_congr_left fun p _ => rfl
    _ = (n.members.zipIdx.map Prod.fst).map cellValueString := by rw [List.map_map]; rfl
    _ = n.members.map cellValueString := by rw [List.zipIdx_map_fst]

theorem textsOf_eq (cs : List Cell) :
    textsOf cs = ((cs.map Cell.value).map cleanString).filter (· != "") := by
  rw [textsOf, List.map_map]
  rfl

theorem textsOf_rowReadings {cellId : String} {n : Node} (h : HasRows n) :
    textsOf (rowReadings cellId n) = returnedMembers n := by
  have hlabel : cleanString ∘ cellValueString = normalLabel := funext cleanString_cellValueString
  rw [textsOf_eq, value_rowReadings h, List.map_map, hlabel, returnedMembers]

theorem rows_cellIdOf {g : Graph} {n : Node} (hn : n ∈ g.nodes) :
    rows (readings g) (cellIdOf g n.id) = rowReadings (cellIdOf g n.id) n := by
  have hvertex : (rowReadings (cellIdOf g n.id) n).filter (·.isVertex) =
      rowReadings (cellIdOf g n.id) n :=
    List.filter_eq_self.2 fun c hc => isVertex_of_mem_rowReadings hc
  rw [rows, childrenOf_cellIdOf hn, hvertex, sortByKey_rowReadings]

/-- A cell without children is no group. -/
theorem groupOf?_of_no_rows {cells : List Cell} {c : Cell} (h : rows cells c.id = []) :
    groupOf? cells c = none := by
  rw [groupOf?, h]
  split
  · rfl
  · rfl

theorem groupOf?_titleReading {g : Graph} (hclasses : HasReadableClasses g) {n : Node}
    (hn : n ∈ g.nodes) : groupOf? (readings g) (titleReading (cellIdOf g n.id) n) =
      if HasRows n then some ⟨normalLabel n.label, returnedMembers n⟩ else none := by
  have hid : (titleReading (cellIdOf g n.id) n).id = cellIdOf g n.id := rfl
  by_cases hrows : HasRows n
  · have hstyle : occursIn "swimlane".toList (vertexStyle n.shape).toList = false := by
      rw [occursIn_swimlane_vertexStyle]
      exact decide_eq_false (hclasses.shape n hn hrows)
    have htitle : cleanString (cellValueString n.label) = normalLabel n.label :=
      cleanString_cellValueString n.label
    have hne := hclasses.title n hn hrows
    obtain ⟨m, ms, hms⟩ := List.exists_cons_of_ne_nil (hclasses.returnedMembers_ne_nil hn hrows)
    rw [if_pos hrows, groupOf?, hid, rows_cellIdOf hn, textsOf_rowReadings hrows]
    simp only [titleReading, visibleCell, hstyle, htitle, hms, Bool.not_true, Bool.or_false,
      Bool.false_eq_true, if_false]
    split
    · next heq => exact absurd heq (by simp)
    · next heq _ => exact absurd heq hne
    · next heq _ => exact absurd heq hne
    · rfl
  · have hnone : rowReadings (cellIdOf g n.id) n = [] := by rw [rowReadings, if_neg hrows]
    rw [if_neg hrows]
    refine groupOf?_of_no_rows ?_
    rw [hid, rows_cellIdOf hn, hnone]

/-! ## The cells one by one -/

theorem mem_readings_iff {g : Graph} {c : Cell} :
    c ∈ readings g ↔ c ∈ rootReadings ∨
      (∃ n ∈ g.nodes, c = titleReading (cellIdOf g n.id) n) ∨
        (∃ n ∈ g.nodes, c ∈ rowReadings (cellIdOf g n.id) n) ∨ c ∈ edgeReadings g := by
  rw [readings, List.mem_append, List.mem_append, nodeReadings, List.mem_flatMap]
  simp only [List.mem_cons]
  constructor
  · rintro ((h | ⟨n, hn, h | h⟩) | h)
    · exact Or.inl h
    · exact Or.inr (Or.inl ⟨n, hn, h⟩)
    · exact Or.inr (Or.inr (Or.inl ⟨n, hn, h⟩))
    · exact Or.inr (Or.inr (Or.inr h))
  · rintro (h | ⟨n, hn, h⟩ | ⟨n, hn, h⟩ | h)
    · exact Or.inl (Or.inl h)
    · exact Or.inl (Or.inr ⟨n, hn, Or.inl h⟩)
    · exact Or.inl (Or.inr ⟨n, hn, Or.inr h⟩)
    · exact Or.inr h

theorem titleReading_mem {g : Graph} {n : Node} (hn : n ∈ g.nodes) :
    titleReading (cellIdOf g n.id) n ∈ readings g :=
  mem_readings_iff.2 (Or.inr (Or.inl ⟨n, hn, rfl⟩))

theorem mem_readings_of_row {g : Graph} {n : Node} (hn : n ∈ g.nodes) {c : Cell}
    (hc : c ∈ rowReadings (cellIdOf g n.id) n) : c ∈ readings g :=
  mem_readings_iff.2 (Or.inr (Or.inr (Or.inl ⟨n, hn, hc⟩)))

theorem mem_readings_of_edge {g : Graph} {c : Cell} (hc : c ∈ edgeReadings g) : c ∈ readings g :=
  mem_readings_iff.2 (Or.inr (Or.inr (Or.inr hc)))

theorem id_ne_empty_of_mem_readings {g : Graph} {c : Cell} (hc : c ∈ readings g) : c.id ≠ "" := by
  rcases mem_readings_iff.1 hc with h | ⟨n, hn, rfl⟩ | ⟨n, hn, h⟩ | h
  · simp only [rootReadings, List.mem_cons, List.not_mem_nil, or_false] at h
    rcases h with rfl | rfl <;> decide
  · exact cellIdOf_ne_empty hn
  · obtain ⟨-, member, i, rfl⟩ := exists_of_mem_rowReadings h
    exact memberCellId_ne_empty (cellIdOf_ne_empty hn) i
  · have hid : c.id ∈ edgeCellIds g := by
      rw [← map_id_edgeReadings]
      exact List.mem_map_of_mem h
    obtain ⟨id, -, hmade⟩ := exists_isMadeOf_of_mem_assignEdgeIds hid
    exact hmade.ne_empty

theorem isConnectable_of_mem_readings {g : Graph} {c : Cell} (hc : c ∈ readings g) :
    c.isConnectable = true := by
  rcases mem_readings_iff.1 hc with h | ⟨n, -, rfl⟩ | ⟨n, -, h⟩ | h
  · simp only [rootReadings, List.mem_cons, List.not_mem_nil, or_false] at h
    rcases h with rfl | rfl <;> rfl
  · rfl
  · obtain ⟨-, member, i, rfl⟩ := exists_of_mem_rowReadings h
    rfl
  · obtain ⟨p, -, rfl⟩ := List.mem_map.1 h
    rfl

/-- Without cells that cannot be connected no cell is the label of an edge. -/
theorem isEdgeLabel_eq_false {g : Graph} {c : Cell} (hc : c ∈ readings g) :
    isEdgeLabel (readings g) c = false := by
  rw [isEdgeLabel, isConnectable_of_mem_readings hc, Bool.not_true, Bool.and_false, Bool.false_and]

/-! ## Roles -/

section Roles

variable {g : Graph} (hown : HasOwnMemberIds g)
include hown

theorem groupById?_cellIdOf (hclasses : HasReadableClasses g) {n : Node} (hn : n ∈ g.nodes) :
    groupById? (readings g) (cellIdOf g n.id) =
      if HasRows n then some ⟨normalLabel n.label, returnedMembers n⟩ else none := by
  rw [← groupOf?_titleReading hclasses hn]
  exact groupById?_eq (nodup_map_id_readings hown) (titleReading_mem hn)

theorem groupById?_eq_none {c : Cell} (hc : c ∈ readings g) (hid : c.id ∉ nodeCellIds g) :
    groupById? (readings g) c.id = none := by
  rw [groupById?_eq (nodup_map_id_readings hown) hc]
  refine groupOf?_of_no_rows ?_
  rw [rows, childrenOf_eq_nil hid]
  exact sortByKey_of_pairwise (by simp) List.Pairwise.nil

/-- What has no parent or a root cell for its parent is not consumed. -/
theorem isConsumed_eq_false {c : Cell} (hc : c ∈ readings g)
    (hparent : ∀ parent, c.parent = some parent → parent ∈ rootIds) :
    isConsumed (readings g) c.id = false := by
  rw [isConsumed_eq (nodup_map_id_readings hown) hc]
  cases h : c.parent with
  | none => exact Bool.and_false _
  | some parent =>
      have hroot : rootIds.contains parent = true := by simpa using hparent parent h
      simp only [hroot, Bool.not_true, Bool.and_false, Bool.false_and]

theorem roleOf_titleReading (hclasses : HasReadableClasses g) {n : Node} (hn : n ∈ g.nodes) :
    roleOf (readings g) (titleReading (cellIdOf g n.id) n) =
      if HasRows n then .group ⟨normalLabel n.label, returnedMembers n⟩ else .node := by
  have hmem := titleReading_mem hn
  have hconsumed : isConsumed (readings g) (cellIdOf g n.id) = false := by
    refine isConsumed_eq_false hown hmem fun parent h => ?_
    have hone : "1" = parent := Option.some.inj h
    rw [← hone]
    decide
  have hid : (titleReading (cellIdOf g n.id) n).id = cellIdOf g n.id := rfl
  rw [roleOf, hid, hconsumed, groupById?_cellIdOf hown hclasses hn, isEdgeLabel_eq_false hmem]
  by_cases hrows : HasRows n
  · rw [if_pos hrows, if_pos hrows]
    rfl
  · rw [if_neg hrows, if_neg hrows]
    rfl

theorem roleOf_rowReading (hclasses : HasReadableClasses g) {n : Node} (hn : n ∈ g.nodes)
    {c : Cell} (hc : c ∈ rowReadings (cellIdOf g n.id) n) : roleOf (readings g) c = .consumed := by
  have hrows : HasRows n := (exists_of_mem_rowReadings hc).1
  have hgroup := groupById?_cellIdOf hown hclasses hn
  rw [if_pos hrows] at hgroup
  have hroot : rootIds.contains (cellIdOf g n.id) = false := by
    simpa using cellIdOf_not_mem_rootIds hn
  have hconsumed : isConsumed (readings g) c.id = true := by
    rw [isConsumed_eq (nodup_map_id_readings hown) (mem_readings_of_row hn hc),
      parent_of_mem_rowReadings hc, isVertex_of_mem_rowReadings hc]
    simp only [hgroup, hroot, bne_iff_ne, ne_eq, cellIdOf_ne_empty hn, not_false_eq_true,
      Bool.not_false, Option.isSome_some, Bool.and_true, Bool.true_and]
  rw [roleOf, hconsumed, if_pos rfl]

theorem roleOf_edgeReading {c : Cell} (hc : c ∈ edgeReadings g) :
    roleOf (readings g) c = .edge := by
  have hmem := mem_readings_of_edge hc
  have hid : c.id ∈ edgeCellIds g := by
    rw [← map_id_edgeReadings]
    exact List.mem_map_of_mem hc
  have hgroup := groupById?_eq_none hown hmem (not_mem_of_mem_edgeCellIds hid).1
  have hedge : c.isVertex = false ∧ c.isEdge = true ∧ c.parent = some "1" := by
    obtain ⟨p, -, rfl⟩ := List.mem_map.1 hc
    exact ⟨rfl, rfl, rfl⟩
  have hconsumed : isConsumed (readings g) c.id = false := by
    refine isConsumed_eq_false hown hmem fun parent h => ?_
    have hone : "1" = parent := Option.some.inj (hedge.2.2.symm.trans h)
    rw [← hone]
    decide
  rw [roleOf, hconsumed, hgroup, isEdgeLabel_eq_false hmem, hedge.1, hedge.2.1]
  rfl

theorem roleOf_rootReading {c : Cell} (hc : c ∈ rootReadings) :
    roleOf (readings g) c = .nothing := by
  have hmem : c ∈ readings g := mem_readings_iff.2 (Or.inl hc)
  have hroot : c.id ∈ rootIds ∧ c.isVertex = false ∧ c.isEdge = false ∧ c.source = none ∧
      ∀ parent, c.parent = some parent → parent ∈ rootIds := by
    simp only [rootReadings, List.mem_cons, List.not_mem_nil, or_false] at hc
    rcases hc with rfl | rfl
    · exact ⟨by decide, rfl, rfl, rfl, fun parent h => by simp [rootCell] at h⟩
    · refine ⟨by decide, rfl, rfl, rfl, fun parent h => ?_⟩
      have hzero : "0" = parent := Option.some.inj h
      rw [← hzero]
      decide
  obtain ⟨hid, hvertex, hedge, hsource, hparent⟩ := hroot
  have hnode : c.id ∉ nodeCellIds g := by
    intro h
    obtain ⟨n, hn, heq⟩ := List.mem_map.1 h
    exact cellIdOf_not_mem_rootIds hn (heq ▸ hid)
  rw [roleOf, isConsumed_eq_false hown hmem hparent, groupById?_eq_none hown hmem hnode,
    isEdgeLabel_eq_false hmem, hvertex, hedge, hsource]
  rfl

end Roles

end DiagramBridge.Drawio
