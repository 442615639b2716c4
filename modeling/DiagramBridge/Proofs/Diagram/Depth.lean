import DiagramBridge.Proofs.Diagram.Layering
import Mathlib.Data.List.Perm.Subperm
import Mathlib.Data.Nat.Find

/-!
# Layers are depths

The depth of a node is the length of a shortest way to it along valid edges from a node where ways
begin; it depends on which valid edges there are and not on their order. A layer and what has been
seen so far are a stage of the search: the layer holds the nodes of one depth, and what has been seen
are those up to this depth. The layer behind it is the next stage, so layer after layer the depths
are those of the nodes, and the last layer has in addition the nodes to which no way leads.
-/

namespace DiagramBridge.Graph

variable (g : Graph)

/-! ## Ways -/

/-- A node that no valid edge enters. -/
structure IsSource (id : String) : Prop where
  mem : id ∈ g.nodeIds
  not_entered : ∀ e ∈ g.validEdges, e.target ≠ id

/-- Ways begin at the sources, and at the first node if there is no source. -/
def IsStart (id : String) : Prop :=
  g.IsSource id ∨ (∀ other, ¬ g.IsSource other) ∧ g.nodeIds.head? = some id

/-- There is a way of so many valid edges to a node. -/
inductive IsReachedIn : Nat → String → Prop
  | start {id : String} (h : g.IsStart id) : IsReachedIn 0 id
  | step {n : Nat} {e : Edge} (h : IsReachedIn n e.source) (he : e ∈ g.validEdges) :
      IsReachedIn (n + 1) e.target

def IsReached (id : String) : Prop :=
  ∃ n, g.IsReachedIn n id

/-- The shortest way to a node has so many edges. -/
structure HasDepth (id : String) (n : Nat) : Prop where
  reached : g.IsReachedIn n id
  shortest : ∀ m, g.IsReachedIn m id → n ≤ m

variable {g}

theorem HasDepth.unique {id : String} {m n : Nat} (hm : g.HasDepth id m) (hn : g.HasDepth id n) :
    m = n :=
  Nat.le_antisymm (hm.shortest n hn.reached) (hn.shortest m hm.reached)

theorem IsReached.exists_hasDepth {id : String} (h : g.IsReached id) :
    ∃ n, g.HasDepth id n := by
  classical
  exact ⟨Nat.find h, Nat.find_spec h, fun _ => Nat.find_min' h⟩

theorem IsReachedIn.exists_hasDepth_le {id : String} {n : Nat} (h : g.IsReachedIn n id) :
    ∃ m ≤ n, g.HasDepth id m := by
  obtain ⟨m, hm⟩ := IsReached.exists_hasDepth ⟨n, h⟩
  exact ⟨m, hm.shortest n h, hm⟩

/-- In front of the last edge of a shortest way there is a shortest way. -/
theorem HasDepth.exists_before {id : String} {n : Nat} (h : g.HasDepth id (n + 1)) :
    ∃ e ∈ g.validEdges, g.HasDepth e.source n ∧ e.target = id := by
  obtain ⟨hreached, hshortest⟩ := h
  cases hreached with
  | step hsource he =>
      refine ⟨_, he, ⟨hsource, fun m hm => ?_⟩, rfl⟩
      have hle := hshortest (m + 1) (hm.step he)
      omega

/-- Where no node has a certain depth, none has a greater one. -/
theorem not_hasDepth_of_le {m n : Nat} (h : ∀ id, ¬ g.HasDepth id m) (hle : m ≤ n) (id : String) :
    ¬ g.HasDepth id n := by
  induction n, hle using Nat.le_induction generalizing id with
  | base => exact h id
  | succ n _ ih =>
      intro hid
      obtain ⟨e, -, hsource, -⟩ := hid.exists_before
      exact ih e.source hsource

/-! ## Depths do not depend on the order of the edges -/

section Edges

variable {other : Graph} (hids : other.nodeIds = g.nodeIds)
  (hedges : ∀ e, e ∈ other.validEdges ↔ e ∈ g.validEdges)
include hids hedges

theorem isStart_congr {id : String} : other.IsStart id ↔ g.IsStart id := by
  have hsource (id : String) : other.IsSource id ↔ g.IsSource id := by
    constructor
    · exact fun h => ⟨hids ▸ h.mem, fun e he => h.not_entered e ((hedges e).2 he)⟩
    · exact fun h => ⟨hids ▸ h.mem, fun e he => h.not_entered e ((hedges e).1 he)⟩
  simp only [IsStart, hsource, hids]

theorem isReachedIn_congr {n : Nat} {id : String} :
    other.IsReachedIn n id ↔ g.IsReachedIn n id := by
  constructor
  · intro h
    induction h with
    | start h => exact .start ((isStart_congr hids hedges).1 h)
    | step _ he ih => exact ih.step ((hedges _).1 he)
  · intro h
    induction h with
    | start h => exact .start ((isStart_congr hids hedges).2 h)
    | step _ he ih => exact ih.step ((hedges _).2 he)

theorem hasDepth_congr {id : String} {n : Nat} : other.HasDepth id n ↔ g.HasDepth id n := by
  have hreached (n : Nat) : other.IsReachedIn n id ↔ g.IsReachedIn n id :=
    isReachedIn_congr hids hedges
  constructor
  · exact fun h => ⟨(hreached n).1 h.reached, fun m hm => h.shortest m ((hreached m).2 hm)⟩
  · exact fun h => ⟨(hreached n).2 h.reached, fun m hm => h.shortest m ((hreached m).1 hm)⟩

end Edges

/-! ## The first layer -/

theorem isSource_iff {id : String} :
    g.IsSource id ↔ id ∈ g.nodeIds.filter fun id => !g.validEdges.any (·.target == id) := by
  simp only [List.mem_filter, Bool.not_eq_true', List.any_eq_false, beq_iff_eq]
  exact ⟨fun h => ⟨h.mem, h.not_entered⟩, fun h => ⟨h.1, h.2⟩⟩

theorem mem_roots_iff {id : String} : id ∈ g.roots ↔ g.IsStart id := by
  rw [IsStart, roots]
  split
  · next hnone =>
    have hno : ∀ other, ¬ g.IsSource other := by simp [isSource_iff, hnone]
    have htake : id ∈ g.nodeIds.take 1 ↔ g.nodeIds.head? = some id := by
      cases g.nodeIds <;> simp [eq_comm]
    rw [htake]
    exact ⟨fun h => .inr ⟨hno, h⟩, fun h => h.elim (fun h => absurd h (hno id)) And.right⟩
  · next hsome =>
    rw [← isSource_iff]
    refine ⟨.inl, fun h => h.elim (fun h => h) fun h => ?_⟩
    obtain ⟨other, hother⟩ := List.exists_mem_of_ne_nil _ hsome
    exact absurd (isSource_iff.2 hother) (h.1 other)

theorem hasDepth_zero_iff {id : String} : g.HasDepth id 0 ↔ g.IsStart id := by
  refine ⟨fun h => ?_, fun h => ⟨.start h, fun m _ => Nat.zero_le m⟩⟩
  cases h.reached with
  | start h => exact h

theorem roots_ne_nil (h : g.nodes ≠ []) : g.roots ≠ [] := by
  rw [roots]
  split
  · rw [nodeIds]
    cases hnodes : g.nodes with
    | nil => exact absurd hnodes h
    | cons n ns => simp
  · assumption

/-! ## One stage after another -/

/-- A layer holds the nodes of one depth, and what has been seen are the nodes up to this depth. -/
structure IsStage (g : Graph) (depth : Nat) (seen layer : List String) : Prop where
  layer : ∀ id, id ∈ layer ↔ g.HasDepth id depth
  seen : ∀ id, id ∈ seen ↔ ∃ n ≤ depth, g.HasDepth id n

theorem isStage_roots : g.IsStage 0 g.roots g.roots where
  layer id := by rw [mem_roots_iff, hasDepth_zero_iff]
  seen id := by simp [mem_roots_iff, hasDepth_zero_iff]

section Step

variable {depth : Nat} {seen layer : List String} (h : g.IsStage depth seen layer)
include h

theorem IsStage.mem_nextLayer_iff {id : String} :
    id ∈ nextLayer g.validEdges seen layer ↔ g.HasDepth id (depth + 1) := by
  rw [mem_nextLayer, h.seen]
  constructor
  · rintro ⟨⟨e, he, hsource, rfl⟩, hseen⟩
    have hreached : g.IsReachedIn (depth + 1) e.target := ((h.layer _).1 hsource).reached.step he
    refine ⟨hreached, fun m hm => ?_⟩
    obtain ⟨n, hn, hdepth⟩ := hm.exists_hasDepth_le
    by_contra hlt
    exact hseen ⟨n, by omega, hdepth⟩
  · intro hid
    obtain ⟨e, he, hsource, htarget⟩ := hid.exists_before
    refine ⟨⟨e, he, (h.layer _).2 hsource, htarget⟩, ?_⟩
    rintro ⟨n, hn, hdepth⟩
    have heq := hid.unique hdepth
    omega

theorem IsStage.next : g.IsStage (depth + 1) (nextLayer g.validEdges seen layer ++ seen)
    (nextLayer g.validEdges seen layer) where
  layer _ := h.mem_nextLayer_iff
  seen id := by
    rw [List.mem_append, h.mem_nextLayer_iff, h.seen]
    constructor
    · rintro (hid | ⟨n, hn, hid⟩)
      · exact ⟨depth + 1, Nat.le_refl _, hid⟩
      · exact ⟨n, by omega, hid⟩
    · rintro ⟨n, hn, hid⟩
      rcases Nat.le_succ_iff.1 hn with hn | rfl
      · exact .inr ⟨n, hn, hid⟩
      · exact .inl hid

end Step

theorem nodup_nextLayer_append {edges : List Edge} {seen layer : List String} (h : seen.Nodup) :
    (nextLayer edges seen layer ++ seen).Nodup := by
  rw [List.nodup_append]
  refine ⟨nodup_unseen .., h, fun id hid other hother heq => ?_⟩
  exact (mem_nextLayer.1 hid).2 (heq ▸ hother)

theorem IsReachedIn.mem_nodeIds {id : String} {n : Nat} (h : g.IsReachedIn n id) :
    id ∈ g.nodeIds := by
  cases h with
  | start h => exact g.roots_sublist.subset (mem_roots_iff.2 h)
  | step _ he => exact (mem_validEdges.1 he).2.2

theorem not_hasDepth_of_isEmpty (h : g.nodes.isEmpty = true) (id : String) (n : Nat) :
    ¬ g.HasDepth id n := fun hid => by
  simpa [g.nodeIds_of_isEmpty h] using hid.reached.mem_nodeIds

/-- What has been seen are nodes, each once, so there is fuel left for every node that has not. -/
theorem IsStage.length_seen_le {depth : Nat} {seen layer : List String}
    (h : g.IsStage depth seen layer) (hnodup : seen.Nodup) : seen.length ≤ g.nodes.length := by
  have hsub : seen ⊆ g.nodeIds := by
    intro id hid
    obtain ⟨n, -, hdepth⟩ := (h.seen id).1 hid
    exact hdepth.reached.mem_nodeIds
  have hle := (List.subperm_of_subset hnodup hsub).length_le
  rwa [nodeIds, List.length_map] at hle

/-- Behind the last layer there is no depth that a node has. -/
theorem IsStage.mem_last_iff {depth : Nat} {seen layer : List String}
    (h : g.IsStage depth seen layer) (hnext : nextLayer g.validEdges seen layer = []) (i : Nat)
    (id : String) : (∃ row, [layer][i]? = some row ∧ id ∈ row) ↔ g.HasDepth id (depth + i) := by
  cases i with
  | zero => simpa using h.layer id
  | succ i =>
      have hnone : ∀ other, ¬ g.HasDepth other (depth + 1) := by
        intro other hother
        rw [← h.mem_nextLayer_iff, hnext] at hother
        exact absurd hother List.not_mem_nil
      simpa using not_hasDepth_of_le hnone (by omega) id

/-- From a stage on, the layers hold the nodes of one depth after another, down to the last depth
that there is. -/
theorem IsStage.mem_layersFrom_iff {fuel depth : Nat} {seen layer : List String}
    (h : g.IsStage depth seen layer) (hnodup : seen.Nodup)
    (hfuel : g.nodes.length ≤ fuel + seen.length) (i : Nat) (id : String) :
    (∃ row, (layersFrom g.validEdges fuel seen layer)[i]? = some row ∧ id ∈ row) ↔
      g.HasDepth id (depth + i) := by
  induction fuel generalizing depth seen layer i with
  | zero =>
      -- Every node has been seen, so there is no further layer.
      have hle := h.next.length_seen_le (nodup_nextLayer_append hnodup)
      rw [List.length_append] at hle
      exact h.mem_last_iff (List.length_eq_zero_iff.1 (by omega)) i id
  | succ fuel ih =>
      rw [layersFrom]
      split
      · next hnext => exact h.mem_last_iff hnext i id
      · next hnext =>
        cases i with
        | zero => simpa using h.layer id
        | succ i =>
            have hpos := List.length_pos_iff.2 hnext
            have hbehind := ih h.next (nodup_nextLayer_append hnodup)
              (by rw [List.length_append]; omega) i
            rwa [Nat.add_right_comm] at hbehind

theorem ne_nil_of_mem_layersFrom {edges : List Edge} {fuel : Nat} {seen layer : List String}
    (h : layer ≠ []) : ∀ row ∈ layersFrom edges fuel seen layer, row ≠ [] := by
  induction fuel generalizing seen layer with
  | zero => simpa [layersFrom] using h
  | succ fuel ih =>
      rw [layersFrom]
      split
      · simpa using h
      · next hnext => exact List.forall_mem_cons.2 ⟨h, ih hnext⟩

/-! ## All layers -/

/-- The layers that ways lead to hold the nodes of one depth after another. -/
theorem mem_reachedLayers_iff {i : Nat} {id : String} :
    (∃ row, g.reachedLayers[i]? = some row ∧ id ∈ row) ↔ g.HasDepth id i := by
  rw [reachedLayers, isStage_roots.mem_layersFrom_iff g.nodup_roots (Nat.le_add_right ..),
    Nat.zero_add]

theorem mem_flatten_reachedLayers_iff {id : String} :
    id ∈ g.reachedLayers.flatten ↔ g.IsReached id := by
  rw [List.mem_flatten]
  constructor
  · rintro ⟨row, hrow, hid⟩
    obtain ⟨i, hi⟩ := List.mem_iff_getElem?.1 hrow
    exact ⟨i, (mem_reachedLayers_iff.1 ⟨row, hi, hid⟩).reached⟩
  · intro h
    obtain ⟨n, hn⟩ := h.exists_hasDepth
    obtain ⟨row, hrow, hid⟩ := mem_reachedLayers_iff.2 hn
    exact ⟨row, List.mem_of_getElem? hrow, hid⟩

theorem mem_unreached_iff {id : String} : id ∈ g.unreached ↔ id ∈ g.nodeIds ∧ ¬ g.IsReached id := by
  rw [mem_unreached, mem_flatten_reachedLayers_iff]

theorem extendLast_cons_cons {α : Type} (more row next : List α) (rows : List (List α)) :
    extendLast more (row :: next :: rows) = row :: extendLast more (next :: rows) := rfl

theorem length_extendLast {α : Type} (more : List α) (rows : List (List α)) :
    (extendLast more rows).length = rows.length := by
  induction rows with
  | nil => rfl
  | cons row rows ih =>
      cases rows with
      | nil => rfl
      | cons next rows =>
          rw [extendLast_cons_cons, List.length_cons, ih]
          rfl

/-- Only the last row is lengthened. -/
theorem mem_extendLast_iff {α : Type} {more : List α} {rows : List (List α)} {i : Nat} {a : α} :
    (∃ row, (extendLast more rows)[i]? = some row ∧ a ∈ row) ↔
      (∃ row, rows[i]? = some row ∧ a ∈ row) ∨ i + 1 = rows.length ∧ a ∈ more := by
  induction rows generalizing i with
  | nil => simp [extendLast]
  | cons row rows ih =>
      cases rows with
      | nil => cases i <;> simp [extendLast]
      | cons next rows =>
          rw [extendLast_cons_cons]
          cases i with
          | zero => simp
          | succ i => simpa using ih

theorem ne_nil_of_mem_extendLast {α : Type} (more : List α) {rows : List (List α)}
    (h : ∀ row ∈ rows, row ≠ []) : ∀ row ∈ extendLast more rows, row ≠ [] := by
  induction rows with
  | nil => simp [extendLast]
  | cons row rows ih =>
      obtain ⟨hrow, hrows⟩ := List.forall_mem_cons.1 h
      cases rows with
      | nil => simp [extendLast, hrow]
      | cons next rows => exact List.forall_mem_cons.2 ⟨hrow, ih hrows⟩

/-- What stands in a layer, with the nodes that no way leads to in the last one. -/
theorem mem_layers_iff {i : Nat} {id : String} :
    (∃ layer, g.layers[i]? = some layer ∧ id ∈ layer) ↔
      g.HasDepth id i ∨ i + 1 = g.layers.length ∧ id ∈ g.nodeIds ∧ ¬ g.IsReached id := by
  rw [layers]
  split
  · next hnone =>
    simp [not_hasDepth_of_isEmpty hnone, g.nodeIds_of_isEmpty hnone]
  · rw [mem_extendLast_iff, mem_reachedLayers_iff, mem_unreached_iff, length_extendLast]

theorem mem_iff_of_getElem?_layers {i : Nat} {layer : List String}
    (h : g.layers[i]? = some layer) {id : String} : id ∈ layer ↔
      g.HasDepth id i ∨ i + 1 = g.layers.length ∧ id ∈ g.nodeIds ∧ ¬ g.IsReached id := by
  rw [← mem_layers_iff, h]
  simp

/-- There are as many layers as there are depths. -/
theorem lt_length_layers_iff {i : Nat} : i < g.layers.length ↔ ∃ id, g.HasDepth id i := by
  rw [layers]
  split
  · next hnone =>
    refine iff_of_false (Nat.not_lt_zero i) (not_exists.2 fun id => ?_)
    exact not_hasDepth_of_isEmpty hnone id i
  · next hsome =>
    rw [length_extendLast]
    constructor
    · intro hi
      have hroots := roots_ne_nil (g := g) (by simpa using hsome)
      obtain ⟨id, hid⟩ := List.exists_mem_of_ne_nil _
        (ne_nil_of_mem_layersFrom hroots _ (List.getElem_mem hi))
      exact ⟨id, mem_reachedLayers_iff.1 ⟨_, List.getElem?_eq_getElem hi, hid⟩⟩
    · rintro ⟨id, hid⟩
      obtain ⟨row, hrow, -⟩ := mem_reachedLayers_iff.2 hid
      exact (List.getElem?_eq_some_iff.1 hrow).1

/-- **Layers.** Every node stands in the layers once, and no layer is empty. A node to which a way
leads stands in the layer of its depth, which is the length of a shortest way; and a layer holds the
nodes of its depth and nothing else, but for the last one, which holds in addition the nodes to
which no way leads. -/
theorem layers_eq_depths (g : Graph) :
    g.layers.flatten.Perm g.nodeIds ∧ (∀ layer ∈ g.layers, layer ≠ []) ∧
      (∀ id n, g.HasDepth id n → ∃ layer, g.layers[n]? = some layer ∧ id ∈ layer) ∧
        ∀ i layer, g.layers[i]? = some layer → ∀ id, id ∈ layer ↔
          g.HasDepth id i ∨ i + 1 = g.layers.length ∧ id ∈ g.nodeIds ∧ ¬ g.IsReached id := by
  refine ⟨?_, ?_, fun id n h => mem_layers_iff.2 (.inl h), fun i layer hi id => ?_⟩
  · exact (List.perm_ext_iff_of_nodup g.nodup_flatten_layers g.nodup).2 fun _ => g.mem_flatten_layers
  · rw [layers]
    split
    · simp
    · next hnone =>
      have hroots := roots_ne_nil (g := g) (by simpa using hnone)
      exact ne_nil_of_mem_extendLast _ (ne_nil_of_mem_layersFrom hroots)
  · rw [← mem_layers_iff, hi]
    simp

end DiagramBridge.Graph
