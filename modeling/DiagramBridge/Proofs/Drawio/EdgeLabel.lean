import DiagramBridge.Proofs.Drawio.DocumentOrder

/-!
# Labels of edges

A cell that is marked as an edge takes the texts of its label cells into its label, wherever these
stand among the cells, and none of them is a node. A cell that is not marked may become an edge as
well, because it names two ends. Such an edge has no label but its own, and its label cells are
nodes. In either case the place of the cell itself does not matter.
-/

namespace DiagramBridge.Drawio

open Text

/-- The visible cells that cannot be connected and name a cell as their parent, in document order,
without those that make groups. -/
def attachedCells (cells : List Cell) (id : String) : List Cell :=
  cells.filter fun d =>
    d.isVertex && !d.isConnectable && d.parent == some id && (groupOf? cells d).isNone

/-- The label of an edge is the text of its cell and those of its label cells, each once and with
spaces between, and no label cell is a node. -/
structure HasWholeLabel (cells : List Cell) (c : Cell) (e : Edge) : Prop where
  label : e.label = String.intercalate " " (textsOf (c :: attachedCells cells c.id))
  not_isNode : ∀ d ∈ attachedCells cells c.id, ¬ IsNode cells d

/-- Two rows of cells that differ at most in the place of one cell. -/
def IsMoved (c : Cell) (cells cells' : List Cell) : Prop :=
  ∃ front back front' back', front ++ back = front' ++ back' ∧
    cells = front ++ c :: back ∧ cells' = front' ++ c :: back'

theorem mem_attachedCells_iff {cells : List Cell} {id : String} {d : Cell} :
    d ∈ attachedCells cells id ↔ d ∈ cells ∧ d.isVertex = true ∧ d.isConnectable = false ∧
      d.parent = some id ∧ groupOf? cells d = none := by
  simp only [attachedCells, List.mem_filter, Bool.and_eq_true, Bool.not_eq_true', beq_iff_eq,
    Option.isNone_iff_eq_none, and_assoc]

/-! ## Cells that are edges -/

/-- What a cell that becomes an edge is not. -/
structure IsEdgeCell (cells : List Cell) (c : Cell) : Prop where
  not_group : groupById? cells c.id = none
  not_label : isEdgeLabel cells c = false
  not_row : c.isVertex = true → c.parent = some "0"

theorem isEdgeCell_of_roleOf {cells : List Cell} {c : Cell} (h : roleOf cells c = .edge) :
    IsEdgeCell cells c := by
  rw [roleOf] at h
  split at h
  · exact absurd h (by simp)
  · split at h
    · exact absurd h (by simp)
    · next hgroup =>
      split_ifs at h with hlabel hnode
      exact ⟨hgroup, by simpa using hlabel, fun hvertex => by simpa [hvertex] using hnode⟩

theorem exists_cell_of_edge {cells : List Cell} (hids : HasOwnIds cells) {e : Edge}
    (he : e ∈ (extract cells).edges) :
    ∃ c ∈ cells, e.id = c.id ∧ roleOf cells c = .edge ∧ e.label = foldedLabel cells c := by
  rw [edges_extract hids.nonempty] at he
  obtain ⟨c, hc, hedge⟩ := List.mem_filterMap.1 he
  rw [edgeOf?] at hedge
  split at hedge <;> simp only [Option.some.injEq, reduceCtorEq] at hedge
  next hrole => exact ⟨c, hc, by rw [← hedge], hrole, by rw [← hedge]⟩

section Labels

variable {cells : List Cell} (hids : HasOwnIds cells) {c d : Cell} (hc : c ∈ cells) (hd : d ∈ cells)
  (hparent : d.parent = some c.id)
include hids hparent

include hc in
theorem isEdgeLabel_eq_of_parent :
    isEdgeLabel cells d = (d.isVertex && !d.isConnectable && c.isEdge) := by
  rw [isEdgeLabel, hparent, Option.getD_some, cellById?_eq hids.nodup hc]

include hd

/-- The children of a cell that makes no group are not consumed. -/
theorem isConsumed_eq_false_of_parent (hgroup : groupById? cells c.id = none) :
    isConsumed cells d.id = false := by
  rw [isConsumed_eq hids.nodup hd, hparent]
  simp [hgroup]

theorem roleOf_eq_edgeLabel_iff (hgroup : groupById? cells c.id = none) :
    roleOf cells d = .edgeLabel ↔
      groupOf? cells d = none ∧ isEdgeLabel cells d = true := by
  rw [roleOf, isConsumed_eq_false_of_parent hids hd hparent hgroup, groupById?_eq hids.nodup hd]
  cases groupOf? cells d with
  | some g => simp
  | none =>
      simp only [Bool.false_eq_true, if_false, true_and]
      split_ifs <;> simp_all

end Labels

/-- The label cells of a cell that is marked as an edge are the cells attached to it. -/
theorem foldedCells_eq_attachedCells {cells : List Cell} (hids : HasOwnIds cells) {c : Cell}
    (hc : c ∈ cells) (hgroup : groupById? cells c.id = none) (hedge : c.isEdge = true) :
    foldedCells cells c.id = attachedCells cells c.id := by
  refine List.filter_congr fun d hd => ?_
  rw [Bool.eq_iff_iff]
  simp only [Bool.and_eq_true, decide_eq_true_eq, beq_iff_eq, Option.isNone_iff_eq_none]
  constructor
  · rintro ⟨hrole, hparent⟩
    obtain ⟨hnone, hlabel⟩ := (roleOf_eq_edgeLabel_iff hids hd hparent hgroup).1 hrole
    rw [isEdgeLabel_eq_of_parent hids hc hparent, hedge, Bool.and_true, Bool.and_eq_true] at hlabel
    exact ⟨⟨hlabel, hparent⟩, hnone⟩
  · rintro ⟨⟨hvisible, hparent⟩, hnone⟩
    refine ⟨(roleOf_eq_edgeLabel_iff hids hd hparent hgroup).2 ⟨hnone, ?_⟩, hparent⟩
    rw [isEdgeLabel_eq_of_parent hids hc hparent, hedge, Bool.and_true, Bool.and_eq_true]
    exact hvisible

/-- A cell that is not marked as an edge has no label cells. -/
theorem foldedCells_eq_nil {cells : List Cell} (hids : HasOwnIds cells) {c : Cell} (hc : c ∈ cells)
    (hedge : c.isEdge = false) : foldedCells cells c.id = [] := by
  refine List.filter_eq_nil_iff.2 fun d hd h => ?_
  simp only [Bool.and_eq_true, decide_eq_true_eq, beq_iff_eq] at h
  have hlabel := isEdgeLabel_of_roleOf h.1
  rw [isEdgeLabel_eq_of_parent hids hc h.2, hedge, Bool.and_false] at hlabel
  exact absurd hlabel (by simp)

theorem hasWholeLabel_of_isEdge {cells : List Cell} (hids : HasOwnIds cells) {c : Cell}
    (hc : c ∈ cells) (hrole : roleOf cells c = .edge) (hedge : c.isEdge = true) {e : Edge}
    (hlabel : e.label = foldedLabel cells c) : HasWholeLabel cells c e := by
  have hgroup := (isEdgeCell_of_roleOf hrole).not_group
  have hfolded := foldedCells_eq_attachedCells hids hc hgroup hedge
  refine ⟨by rw [hlabel, foldedLabel_eq, hfolded], fun d hd => ?_⟩
  rw [← hfolded] at hd
  obtain ⟨hmem, hd⟩ := List.mem_filter.1 hd
  simp only [Bool.and_eq_true, decide_eq_true_eq] at hd
  rw [isNode_iff_fateOf? hids hmem, hd.1]
  simp [fateOf?]

theorem textsOf_singleton (c : Cell) :
    String.intercalate " " (textsOf [c]) = cleanString c.value := by
  by_cases h : cleanString c.value = ""
  · simp [textsOf, h]
  · simp [textsOf, h]

/-- The cells attached to an edge that is not marked as one are nodes, but for those of the top. -/
theorem isNode_of_mem_attachedCells {cells : List Cell} (hids : HasOwnIds cells) {c d : Cell}
    (hc : c ∈ cells) (hrole : roleOf cells c = .edge) (hedge : c.isEdge = false)
    (hid : c.id ≠ "0") (hd : d ∈ attachedCells cells c.id) : IsNode cells d := by
  obtain ⟨hmem, hvertex, -, hparent, hnone⟩ := mem_attachedCells_iff.1 hd
  have hgroup := (isEdgeCell_of_roleOf hrole).not_group
  rw [isNode_iff_fateOf? hids hmem, roleOf,
    isConsumed_eq_false_of_parent hids hmem hparent hgroup, groupById?_eq hids.nodup hmem, hnone,
    isEdgeLabel_eq_of_parent hids hc hparent, hedge, hvertex, hparent]
  simp [fateOf?, hid]

/-! ## The place of an edge -/

section Moved

variable {c : Cell} {cells cells' : List Cell} (h : IsMoved c cells cells')
include h

theorem IsMoved.perm : cells.Perm cells' := by
  obtain ⟨front, back, front', back', heq, rfl, rfl⟩ := h
  exact List.perm_middle.trans (heq ▸ List.perm_middle.symm)

/-- What is picked from the cells is the same if the cell that is moved is not picked. -/
theorem IsMoved.filter_eq {p : Cell → Bool} (hc : p c = false) :
    cells.filter p = cells'.filter p := by
  obtain ⟨front, back, front', back', heq, rfl, rfl⟩ := h
  rw [List.filter_append, List.filter_cons_of_neg (by simp [hc]), ← List.filter_append, heq,
    List.filter_append, List.filter_append, List.filter_cons_of_neg (by simp [hc])]

theorem IsMoved.rows_eq (hrow : c.isVertex = true → c.parent = some "0") (id : String) :
    rows cells id = rows cells' id := by
  have hchildren : (childrenOf cells id).filter (·.isVertex) =
      (childrenOf cells' id).filter (·.isVertex) := by
    rw [childrenOf, childrenOf]
    split
    · rfl
    · next hroot =>
      rw [List.filter_filter, List.filter_filter]
      refine h.filter_eq ?_
      cases hvertex : c.isVertex with
      | false => rfl
      | true =>
          rw [hrow hvertex, Bool.true_and, beq_eq_false_iff_ne]
          rintro heq
          rw [← Option.some.inj heq] at hroot
          exact hroot (by decide)
  rw [rows, rows, hchildren]

/-- Moving a cell that becomes an edge changes no edge, but for the place where it stands. -/
theorem IsMoved.edges_perm (hids : HasOwnIds cells) (hrole : roleOf cells c = .edge) :
    (extract cells).edges.Perm (extract cells').edges := by
  obtain ⟨-, hlabel, hrow⟩ := isEdgeCell_of_roleOf hrole
  have hrows : ∀ p ∈ cells, rows cells p.id = rows cells' p.id := fun p _ => h.rows_eq hrow p.id
  have hnonempty' : ∀ d ∈ cells', d.id ≠ "" := fun d hd => hids.nonempty d (h.perm.mem_iff.2 hd)
  have hlabels (id : String) : labelCells cells id = labelCells cells' id := by
    rw [labelCells, labelCells, h.filter_eq (by rw [hlabel, Bool.false_and])]
    simp only [isEdgeLabel_eq_of_perm h.perm hids.nodup]
  rw [edges_extract hids.nonempty, edges_extract hnonempty',
    List.filterMap_congr fun e _ => edgeOf?_eq_of_perm h.perm hids.nodup hrows
      (foldedCells_eq_of_perm h.perm hids.nodup hrows (hlabels e.id))]
  exact h.perm.filterMap _

end Moved

/-- **Labels of edges.** Every edge comes from a cell with its id. If the cell is marked as an edge,
the label of the edge is whole; if not, the edge has no text but that of its cell, and the cells
attached to it are nodes. Moving the cell to another place changes no edge. -/
theorem label_of_edge {cells : List Cell} (hids : HasOwnIds cells) {e : Edge}
    (he : e ∈ (extract cells).edges) :
    ∃ c ∈ cells, c.id = e.id ∧
      (c.isEdge = true → HasWholeLabel cells c e) ∧
      (c.isEdge = false → e.label = cleanString c.value ∧
        (c.id ≠ "0" → ∀ d ∈ attachedCells cells c.id, IsNode cells d)) ∧
      ∀ cells', IsMoved c cells cells' → (extract cells).edges.Perm (extract cells').edges := by
  obtain ⟨c, hc, hid, hrole, hlabel⟩ := exists_cell_of_edge hids he
  refine ⟨c, hc, hid.symm, fun hedge => hasWholeLabel_of_isEdge hids hc hrole hedge hlabel,
    fun hedge => ⟨?_, fun hzero d => isNode_of_mem_attachedCells hids hc hrole hedge hzero⟩,
    fun cells' hmoved => hmoved.edges_perm hids hrole⟩
  rw [hlabel, foldedLabel_eq, foldedCells_eq_nil hids hc hedge, textsOf_singleton]

/-- A text at an edge. -/
def noteCell (id edge text : String) : Cell :=
  { rowCell id edge text (.ofInt 0) with isConnectable := false }

/-- An edge between two boxes. -/
def linkCell : Cell :=
  { blankCell "link" "1" with
    value := "fast", isEdge := true, source := some "a", target := some "b" }

/-- What stands around the edge: a label cell before it and one behind it, two boxes, and an edge
that is not marked as one and has a label cell as well. -/
def linkPage : List Cell :=
  [noteCell "verb" "link" "writes", rowCell "a" "1" "A" (.ofInt 0), rowCell "b" "1" "B" (.ofInt 0),
   linkCell, noteCell "time" "link" "at once",
   { blankCell "wire" "1" with value := "slow", source := some "a", target := some "b" },
   noteCell "hint" "wire" "rarely"]

theorem hasOwnIds_linkPage : HasOwnIds linkPage :=
  ⟨by decide, by decide⟩

theorem label_of_edge_linkPage :
    HasOwnIds linkPage ∧ ∃ e ∈ (extract linkPage).edges, e.id = "link" ∧
      e.label = "fast writes at once" ∧ ¬ IsNode linkPage (noteCell "verb" "link" "writes") ∧
        (extract linkPage).edges.Perm (extract (linkPage.erase linkCell ++ [linkCell])).edges := by
  have hids : (extract linkPage).edges.map Edge.id = ["link", "wire"] := by decide +kernel
  obtain ⟨e, he, hid⟩ : ∃ e ∈ (extract linkPage).edges, e.id = "link" :=
    List.mem_map.1 (hids ▸ List.mem_cons_self)
  obtain ⟨c, hc, hcid, hmarked, -, hmoved⟩ := label_of_edge hasOwnIds_linkPage he
  obtain rfl : c = linkCell := by
    have honly : ∀ d ∈ linkPage, d.id = "link" → d = linkCell := by decide
    exact honly c hc (hcid.trans hid)
  obtain ⟨hlabel, hnode⟩ := hmarked rfl
  refine ⟨hasOwnIds_linkPage, e, he, hid, hlabel.trans (by decide +kernel),
    hnode _ (by decide +kernel), hmoved _ ?_⟩
  exact ⟨linkPage.take 3, linkPage.drop 4, linkPage.erase linkCell, [], by decide, rfl, rfl⟩

/-- The label cell of an edge that is not marked as one is a node, and its text is lost to the
edge. -/
theorem not_hasWholeLabel_linkPage :
    HasOwnIds linkPage ∧ (∀ c ∈ linkPage, ¬ (c.isVertex = true ∧ c.isEdge = true)) ∧
      ∃ c ∈ linkPage, ∃ e ∈ (extract linkPage).edges, e.id = c.id ∧
        ¬ HasWholeLabel linkPage c e ∧ e.label = "slow" ∧
          IsNode linkPage (noteCell "hint" "wire" "rarely") := by
  let wire : Cell :=
    { blankCell "wire" "1" with value := "slow", source := some "a", target := some "b" }
  let hint := noteCell "hint" "wire" "rarely"
  have hedges : (extract linkPage).edges.map (fun e => (e.id, e.label)) =
      [("link", "fast writes at once"), ("wire", "slow")] := by decide +kernel
  obtain ⟨e, he, hpair⟩ : ∃ e ∈ (extract linkPage).edges, (e.id, e.label) = ("wire", "slow") :=
    List.mem_map.1 (hedges ▸ by simp)
  obtain ⟨hid, hlabel⟩ := Prod.mk.inj hpair
  have hrole : roleOf linkPage wire = .edge := by decide +kernel
  have hattached : hint ∈ attachedCells linkPage wire.id := by decide +kernel
  have hnode : IsNode linkPage hint :=
    isNode_of_mem_attachedCells hasOwnIds_linkPage (by decide) hrole rfl (by decide) hattached
  exact ⟨hasOwnIds_linkPage, by decide, wire, by decide, e, he, hid,
    fun h => h.not_isNode hint hattached hnode, hlabel, hnode⟩

end DiagramBridge.Drawio
