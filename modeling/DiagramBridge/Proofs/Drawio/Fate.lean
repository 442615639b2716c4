import DiagramBridge.Proofs.Drawio.Extraction
import Mathlib.Data.Fintype.EquivFin
import Mathlib.Data.Fintype.Sets
import Mathlib.Logic.Relation
import Mathlib.Order.RelClasses
import Mathlib.Order.WellFounded

/-!
# What becomes of visible cells

A visible cell that is no layer has one of three fates: it is a node by itself, its text is part of
the label of the edge it belongs to, or it is merged into a class. In the last case the cell whose
part it is may be merged in turn; but parent links lead up to an end, and the class that is reached
there is in the graph. The role of a cell among the others decides its fate.
-/

namespace DiagramBridge.Drawio

/-! ## Cells and their parents -/

def IsPartOf (cells : List Cell) (c p : Cell) : Prop :=
  c ∈ cells ∧ p ∈ cells ∧ c.parent = some p.id

/-- Parent links lead from no cell back to it. -/
def IsAcyclic (cells : List Cell) : Prop :=
  ∀ c ∈ cells, ¬ Relation.TransGen (IsPartOf cells) c c

theorem isAcyclic_of_rank {cells : List Cell} (rank : Cell → Nat)
    (h : ∀ c ∈ cells, ∀ p ∈ cells, c.parent = some p.id → rank p < rank c) : IsAcyclic cells := by
  have hrank : ∀ c p, Relation.TransGen (IsPartOf cells) c p → rank p < rank c := by
    intro c p hpath
    induction hpath with
    | single hstep => exact h _ hstep.1 _ hstep.2.1 hstep.2.2
    | tail _ hstep ih => exact (h _ hstep.1 _ hstep.2.1 hstep.2.2).trans ih
  exact fun c _ hcycle => (hrank c c hcycle).false

/-- Going up from part to whole comes to an end. -/
theorem IsAcyclic.induction {cells : List Cell} (h : IsAcyclic cells) {P : Cell → Prop}
    (step : ∀ c ∈ cells, (∀ p, IsPartOf cells c p → P p) → P c) {c : Cell} (hc : c ∈ cells) :
    P c := by
  let above : {c // c ∈ cells} → {c // c ∈ cells} → Prop := fun p c =>
    Relation.TransGen (IsPartOf cells) c p
  -- The chains of parent links make a strict order on finitely many cells.
  have : IsTrans {c // c ∈ cells} above := ⟨fun _ _ _ hab hbc => hbc.trans hab⟩
  have : Std.Irrefl above := ⟨fun c => h c c.2⟩
  have : Finite {c // c ∈ cells} := inferInstance
  have hwf : WellFounded above := Finite.wellFounded_of_trans_of_irrefl above
  suffices ∀ c : {c // c ∈ cells}, P c from this ⟨c, hc⟩
  intro c
  induction c using hwf.induction with
  | _ c ih => exact step c c.2 fun p hp => ih ⟨p, hp.2.1⟩ (Relation.TransGen.single hp)

/-! ## Parts of classes -/

theorem isPartOf_of_mem_childrenOf {cells : List Cell} {c p : Cell} (hp : p ∈ cells)
    (hc : c ∈ childrenOf cells p.id) : IsPartOf cells c p ∧ p.id ≠ "" ∧ p.id ∉ rootIds := by
  rw [childrenOf] at hc
  split at hc
  · exact absurd hc (by simp)
  · next hown =>
    obtain ⟨hmem, hparent⟩ := List.mem_filter.1 hc
    simp only [Bool.or_eq_true, decide_eq_true_eq, List.contains_iff_mem, not_or] at hown
    exact ⟨⟨hmem, hp, by simpa using hparent⟩, hown⟩

/-- A cell is merged if it is a visible child of a cell that makes a group. -/
theorem isConsumed_iff {cells : List Cell} (hnodup : (cells.map Cell.id).Nodup) {c : Cell}
    (hc : c ∈ cells) : isConsumed cells c.id = true ↔
      c.isVertex = true ∧ ∃ p ∈ cells, c ∈ childrenOf cells p.id ∧
        (groupOf? cells p).isSome = true := by
  rw [isConsumed_eq hnodup hc, Bool.and_eq_true]
  refine and_congr_right fun _ => ?_
  constructor
  · intro h
    cases hp : c.parent with
    | none => simp [hp] at h
    | some id =>
        simp only [hp, Bool.and_eq_true, Option.isSome_iff_exists] at h
        obtain ⟨hown, g, hg⟩ := h
        obtain ⟨p, hpmem, rfl, hgroup⟩ := exists_of_groupById?_eq_some hg
        refine ⟨p, hpmem, ?_, Option.isSome_iff_exists.2 ⟨g, hgroup⟩⟩
        rw [childrenOf, if_neg (by simpa using hown)]
        exact List.mem_filter.2 ⟨hc, by simp [hp]⟩
  · rintro ⟨p, hp, hchild, hgroup⟩
    obtain ⟨⟨-, -, hlink⟩, hne, hroot⟩ := isPartOf_of_mem_childrenOf hp hchild
    simp [hlink, groupById?_eq hnodup hp, hgroup, hne, hroot]

theorem roleOf_of_groupOf? {cells : List Cell} (hnodup : (cells.map Cell.id).Nodup) {p : Cell}
    (hp : p ∈ cells) {g : Group} (hgroup : groupOf? cells p = some g)
    (h : isConsumed cells p.id = false) : roleOf cells p = .group g := by
  rw [roleOf, h, groupById?_eq hnodup hp, hgroup]
  rfl

/-- Parent links lead from a cell that is merged to a class that is not. -/
theorem exists_group_above {cells : List Cell} (hnodup : (cells.map Cell.id).Nodup)
    (hacyclic : IsAcyclic cells) {c : Cell} (hc : c ∈ cells) (h : isConsumed cells c.id = true) :
    ∃ a g, Relation.TransGen (IsPartOf cells) c a ∧ a ∈ cells ∧ roleOf cells a = .group g := by
  -- Either the whole is a class of the graph, or it is merged in turn and has a class above it.
  refine hacyclic.induction (P := fun c => isConsumed cells c.id = true →
    ∃ a g, Relation.TransGen (IsPartOf cells) c a ∧ a ∈ cells ∧ roleOf cells a = .group g)
    (fun c hc ih h => ?_) hc h
  obtain ⟨-, p, hpmem, hchild, hgroup⟩ := (isConsumed_iff hnodup hc).1 h
  obtain ⟨g, hgroup⟩ := Option.isSome_iff_exists.1 hgroup
  have hpart := (isPartOf_of_mem_childrenOf hpmem hchild).1
  cases hp : isConsumed cells p.id with
  | true =>
      obtain ⟨a, g, habove, ha, hrole⟩ := ih p hpart hp
      exact ⟨a, g, habove.head hpart, ha, hrole⟩
  | false =>
      exact ⟨p, g, Relation.TransGen.single hpart, hpmem,
        roleOf_of_groupOf? hnodup hpmem hgroup hp⟩

/-! ## Labels of edges -/

theorem exists_edgeOf? {cells : List Cell} {c : Cell} (h : roleOf cells c = .edge) :
    ∃ e, edgeOf? cells c = some e ∧ e.id = c.id ∧ e.label = foldedLabel cells c := by
  simp only [edgeOf?, h, Option.some.injEq, exists_eq_left', and_self]

theorem roleOf_eq_edge {cells : List Cell} (hnodup : (cells.map Cell.id).Nodup) {c : Cell}
    (hc : c ∈ cells) (hedge : c.isEdge = true) (hvertex : c.isVertex = false) :
    roleOf cells c = .edge := by
  have hconsumed : isConsumed cells c.id = false := by
    rw [isConsumed_eq hnodup hc, hvertex, Bool.false_and]
  have hgroup : groupById? cells c.id = none := by
    rw [groupById?_eq hnodup hc, groupOf?, hvertex]
    rfl
  have hlabel : isEdgeLabel cells c = false := by
    rw [isEdgeLabel, hvertex, Bool.false_and, Bool.false_and]
  rw [roleOf, hconsumed, hgroup, hlabel, hvertex, hedge]
  rfl

/-! ## Fates -/

/-- What can become of a visible cell. -/
inductive Fate where
  | node
  | folded
  | merged
  deriving DecidableEq

/-- A cell that is a node of the graph under its own id. -/
def IsNode (cells : List Cell) (c : Cell) : Prop :=
  ∃ n ∈ (extract cells).nodes, n.id = c.id

/-- A cell that cannot be connected and belongs to an edge, and whose text is one of the texts that
make up the label of this edge. -/
def IsFolded (cells : List Cell) (c : Cell) : Prop :=
  c.isConnectable = false ∧ ∃ owner, IsPartOf cells c owner ∧ owner.isEdge = true ∧
    c ∈ foldedCells cells owner.id ∧
    (∃ e ∈ (extract cells).edges, e.id = owner.id ∧
      e.label = String.intercalate " " (textsOf (owner :: foldedCells cells owner.id))) ∧
    (cleanString c.value ≠ "" →
      cleanString c.value ∈ textsOf (owner :: foldedCells cells owner.id))

/-- A cell that is part of a group, with a class of the graph further up. -/
def IsMerged (cells : List Cell) (c : Cell) : Prop :=
  isConsumed cells c.id = true ∧ ∃ a, Relation.TransGen (IsPartOf cells) c a ∧
    ∃ n ∈ (extract cells).nodes, n.id = a.id ∧ n.kind = .classLike

def HasFate (cells : List Cell) (c : Cell) : Fate → Prop
  | .node => IsNode cells c
  | .folded => IsFolded cells c
  | .merged => IsMerged cells c

def fateOf? : Role → Option Fate
  | .consumed => some .merged
  | .group _ => some .node
  | .edgeLabel => some .folded
  | .node => some .node
  | .edge => none
  | .nothing => none

theorem isConsumed_of_roleOf {cells : List Cell} {c : Cell} (h : roleOf cells c = .consumed) :
    isConsumed cells c.id = true := by
  grind [roleOf]

theorem isEdgeLabel_of_roleOf {cells : List Cell} {c : Cell} (h : roleOf cells c = .edgeLabel) :
    isEdgeLabel cells c = true := by
  grind [roleOf]

theorem fateOf?_isSome {cells : List Cell} {c : Cell} (hvertex : c.isVertex = true)
    (hlayer : c.parent ≠ some "0") : (fateOf? (roleOf cells c)).isSome = true := by
  rw [roleOf]
  split
  · rfl
  · split
    · rfl
    · split
      · rfl
      · rw [if_pos (by simp [hvertex, hlayer])]
        rfl

section Fates

variable {cells : List Cell} (hids : HasOwnIds cells) {c : Cell} (hc : c ∈ cells)
include hids hc

theorem isNode_iff : IsNode cells c ↔ (nodeOf? cells c).isSome = true := by
  rw [IsNode, nodes_extract hids.nodup, Option.isSome_iff_exists]
  constructor
  · rintro ⟨n, hn, hid⟩
    obtain ⟨d, hd, hnode⟩ := List.mem_filterMap.1 hn
    rw [← eq_of_id_eq hids.nodup hc hd ((id_of_nodeOf? hnode).symm.trans hid)]
    exact ⟨n, hnode⟩
  · rintro ⟨n, hn⟩
    exact ⟨n, List.mem_filterMap.2 ⟨c, hc, hn⟩, id_of_nodeOf? hn⟩

theorem isNode_iff_fateOf? : IsNode cells c ↔ fateOf? (roleOf cells c) = some .node := by
  rw [isNode_iff hids hc, nodeOf?]
  cases roleOf cells c <;> simp [fateOf?]

theorem exists_parent_of_isEdgeLabel (h : isEdgeLabel cells c = true) :
    c.isConnectable = false ∧ ∃ owner, IsPartOf cells c owner ∧ owner.isEdge = true := by
  rw [isEdgeLabel, Bool.and_eq_true, Bool.and_eq_true, Bool.not_eq_true'] at h
  obtain ⟨⟨-, hconnectable⟩, howner⟩ := h
  refine ⟨hconnectable, ?_⟩
  cases hparent : cellById? cells (c.parent.getD "") with
  | none => simp [hparent] at howner
  | some owner =>
      obtain ⟨hmem, hid⟩ := mem_of_cellById?_eq_some hparent
      refine ⟨owner, ⟨hc, hmem, ?_⟩, by simpa [hparent] using howner⟩
      cases hp : c.parent with
      | none =>
          rw [hp] at hid
          exact absurd hid (hids.nonempty owner hmem)
      | some id =>
          rw [hp] at hid
          exact congrArg some hid.symm

theorem isFolded_of_roleOf (hkinds : ∀ d ∈ cells, ¬ (d.isVertex = true ∧ d.isEdge = true))
    (h : roleOf cells c = .edgeLabel) : IsFolded cells c := by
  obtain ⟨hconnectable, owner, hpart, hedge⟩ :=
    exists_parent_of_isEdgeLabel hids hc (isEdgeLabel_of_roleOf h)
  have hmem := hpart.2.1
  have hlink := hpart.2.2
  have hfolded : c ∈ foldedCells cells owner.id :=
    List.mem_filter.2 ⟨hc, by simp [h, hlink]⟩
  have hvertex : owner.isVertex = false := by
    rw [← Bool.not_eq_true]
    exact fun hv => hkinds owner hmem ⟨hv, hedge⟩
  obtain ⟨e, he, hid, hlabel⟩ :=
    exists_edgeOf? (roleOf_eq_edge hids.nodup hmem hedge hvertex)
  refine ⟨hconnectable, owner, hpart, hedge, hfolded, ⟨e, ?_, hid, ?_⟩, fun hne => ?_⟩
  · rw [edges_extract hids.nonempty]
    exact List.mem_filterMap.2 ⟨owner, hmem, he⟩
  · rw [hlabel, foldedLabel_eq]
  · exact mem_textsOf (List.mem_cons_of_mem owner hfolded) hne

theorem isMerged_of_roleOf (hacyclic : IsAcyclic cells) (h : roleOf cells c = .consumed) :
    IsMerged cells c := by
  have hconsumed := isConsumed_of_roleOf h
  obtain ⟨a, g, habove, ha, hrole⟩ := exists_group_above hids.nodup hacyclic hc hconsumed
  refine ⟨hconsumed, a, habove, ?_⟩
  rw [nodes_extract hids.nodup]
  exact ⟨_, List.mem_filterMap.2 ⟨a, ha, by rw [nodeOf?, hrole]⟩, rfl, rfl⟩

/-- The role of a cell decides its fate. -/
theorem hasFate_iff (hacyclic : IsAcyclic cells)
    (hkinds : ∀ d ∈ cells, ¬ (d.isVertex = true ∧ d.isEdge = true)) (fate : Fate) :
    HasFate cells c fate ↔ fateOf? (roleOf cells c) = some fate := by
  cases fate with
  | node => exact isNode_iff_fateOf? hids hc
  | folded =>
      constructor
      · rintro ⟨-, owner, -, -, hfolded, -⟩
        have hrole := (Bool.and_eq_true_iff.1 (List.mem_filter.1 hfolded).2).1
        rw [of_decide_eq_true hrole]
        rfl
      · intro h
        refine isFolded_of_roleOf hids hc hkinds ?_
        cases hrole : roleOf cells c <;> simp [hrole, fateOf?] at h ⊢
  | merged =>
      constructor
      · rintro ⟨hconsumed, -⟩
        rw [roleOf, if_pos hconsumed]
        rfl
      · intro h
        refine isMerged_of_roleOf hids hc hacyclic ?_
        cases hrole : roleOf cells c <;> simp [hrole, fateOf?] at h ⊢

end Fates

/-! ## Layers -/

/-- A visible cell of the bottom layer is a node, unless the layer is an edge. -/
theorem isNode_of_layer {cells : List Cell} (hids : HasOwnIds cells) {c : Cell} (hc : c ∈ cells)
    (hvertex : c.isVertex = true) (hparent : c.parent = some "1")
    (hlayer : ∀ d ∈ cells, d.id = "1" → d.isEdge = false) : IsNode cells c := by
  have hconsumed : isConsumed cells c.id = false := by
    rw [isConsumed_eq hids.nodup hc, hparent]
    simp [rootIds]
  have hlabel : isEdgeLabel cells c = false := by
    rw [← Bool.not_eq_true]
    intro h
    obtain ⟨-, owner, ⟨-, hmem, hlink⟩, hedge⟩ := exists_parent_of_isEdgeLabel hids hc h
    rw [hparent, Option.some.injEq] at hlink
    exact absurd hedge (by simp [hlayer owner hmem hlink.symm])
  rw [isNode_iff_fateOf? hids hc, roleOf, hconsumed, hlabel, hvertex, hparent]
  cases groupById? cells c.id <;> rfl

end DiagramBridge.Drawio
