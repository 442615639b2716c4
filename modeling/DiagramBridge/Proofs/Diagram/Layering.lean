import DiagramBridge.Diagram.Layering
import DiagramBridge.Proofs.Diagram.Graph

/-!
# Every node stands in one layer

The layers behind a layer hold nodes that no layer before them holds, each once. The nodes that no
edge leads to from the first layer join the last one, so all layers together are the nodes, each at
one place.
-/

namespace DiagramBridge.Graph

/-! ## One layer -/

theorem mem_successors {edges : List Edge} {id next : String} :
    next ∈ successors edges id ↔ ∃ e ∈ edges, e.source = id ∧ e.target = next := by
  rw [successors, List.mem_map]
  constructor
  · rintro ⟨e, he, rfl⟩
    obtain ⟨he, hsource⟩ := List.mem_filter.1 he
    exact ⟨e, he, by simpa using hsource, rfl⟩
  · rintro ⟨e, he, hsource, rfl⟩
    exact ⟨e, List.mem_filter.2 ⟨he, by simpa using hsource⟩, rfl⟩

theorem mem_unseen {seen ids : List String} {id : String} :
    id ∈ unseen seen ids ↔ id ∈ ids ∧ id ∉ seen := by
  induction ids generalizing seen with
  | nil => simp [unseen]
  | cons first ids ih =>
      rw [unseen]
      by_cases hfirst : first ∈ seen
      · rw [if_pos (by simpa using hfirst), ih, List.mem_cons]
        refine ⟨fun h => ⟨.inr h.1, h.2⟩, fun h => ⟨h.1.resolve_left ?_, h.2⟩⟩
        rintro rfl
        exact h.2 hfirst
      · rw [if_neg (by simpa using hfirst), List.mem_cons, ih, List.mem_cons, List.mem_cons]
        grind

theorem nodup_unseen (seen ids : List String) : (unseen seen ids).Nodup := by
  induction ids generalizing seen with
  | nil => exact List.nodup_nil
  | cons first ids ih =>
      rw [unseen]
      split
      · exact ih seen
      · refine List.nodup_cons.2 ⟨fun h => ?_, ih _⟩
        exact (mem_unseen.1 h).2 List.mem_cons_self

theorem mem_nextLayer {edges : List Edge} {seen layer : List String} {id : String} :
    id ∈ nextLayer edges seen layer ↔
      (∃ e ∈ edges, e.source ∈ layer ∧ e.target = id) ∧ id ∉ seen := by
  rw [nextLayer, mem_unseen, List.mem_flatMap]
  refine and_congr_left fun _ => ?_
  simp only [mem_successors]
  constructor
  · rintro ⟨source, hsource, e, he, rfl, htarget⟩
    exact ⟨e, he, hsource, htarget⟩
  · rintro ⟨e, he, hsource, htarget⟩
    exact ⟨e.source, hsource, e, he, rfl, htarget⟩

/-! ## The layers behind a layer -/

/-- Behind a layer come layers with ends of edges that have not been seen, each once. -/
theorem exists_layersFrom_eq (edges : List Edge) (fuel : Nat) (seen layer : List String) :
    ∃ behind, layersFrom edges fuel seen layer = layer :: behind ∧ behind.flatten.Nodup ∧
      ∀ id ∈ behind.flatten, id ∉ seen ∧ ∃ e ∈ edges, e.target = id := by
  induction fuel generalizing seen layer with
  | zero => exact ⟨[], rfl, List.nodup_nil, by simp⟩
  | succ fuel ih =>
      rw [layersFrom]
      split
      · exact ⟨[], rfl, List.nodup_nil, by simp⟩
      · obtain ⟨behind, heq, hnodup, hnew⟩ := ih (nextLayer edges seen layer ++ seen)
          (nextLayer edges seen layer)
        refine ⟨nextLayer edges seen layer :: behind, by rw [heq], ?_, ?_⟩
        · rw [List.flatten_cons, List.nodup_append]
          refine ⟨nodup_unseen .., hnodup, fun id hid other hother heq => ?_⟩
          exact (hnew other hother).1 (List.mem_append_left _ (heq ▸ hid))
        · rw [List.flatten_cons]
          intro id hid
          rcases List.mem_append.1 hid with hid | hid
          · obtain ⟨⟨e, he, -, htarget⟩, hseen⟩ := mem_nextLayer.1 hid
            exact ⟨hseen, e, he, htarget⟩
          · obtain ⟨hseen, htarget⟩ := hnew id hid
            exact ⟨fun h => hseen (List.mem_append_right _ h), htarget⟩

/-! ## All layers -/

variable (g : Graph)

theorem roots_sublist : g.roots.Sublist g.nodeIds := by
  rw [roots]
  split
  · exact List.take_sublist ..
  · exact List.filter_sublist

theorem nodup_roots : g.roots.Nodup :=
  g.nodup.sublist g.roots_sublist

theorem exists_reachedLayers_eq : ∃ behind, g.reachedLayers = g.roots :: behind ∧
    behind.flatten.Nodup ∧
      ∀ id ∈ behind.flatten, id ∉ g.roots ∧ ∃ e ∈ g.validEdges, e.target = id :=
  exists_layersFrom_eq ..

theorem nodup_flatten_reachedLayers : g.reachedLayers.flatten.Nodup := by
  obtain ⟨behind, heq, hnodup, hnew⟩ := g.exists_reachedLayers_eq
  rw [heq, List.flatten_cons, List.nodup_append]
  exact ⟨g.nodup_roots, hnodup, fun id hid other hother h => (hnew other hother).1 (h ▸ hid)⟩

theorem flatten_reachedLayers_subset : g.reachedLayers.flatten ⊆ g.nodeIds := by
  obtain ⟨behind, heq, -, hnew⟩ := g.exists_reachedLayers_eq
  rw [heq, List.flatten_cons]
  refine List.append_subset.2 ⟨g.roots_sublist.subset, fun id hid => ?_⟩
  obtain ⟨-, e, he, rfl⟩ := hnew id hid
  exact (mem_validEdges.1 he).2.2

theorem mem_unreached {id : String} :
    id ∈ g.unreached ↔ id ∈ g.nodeIds ∧ id ∉ g.reachedLayers.flatten := by
  simp [unreached, List.mem_flatten]

theorem flatten_extendLast {α : Type} (more : List α) {rows : List (List α)} (h : rows ≠ []) :
    (extendLast more rows).flatten = rows.flatten ++ more := by
  induction rows with
  | nil => exact absurd rfl h
  | cons row rows ih =>
      cases rows with
      | nil => simp [extendLast]
      | cons next rows =>
          rw [extendLast, List.flatten_cons, ih (by simp), List.flatten_cons (L := next :: rows),
            List.append_assoc]
          simp

theorem nodeIds_of_isEmpty (h : g.nodes.isEmpty = true) : g.nodeIds = [] := by
  rw [nodeIds, List.isEmpty_iff.1 h, List.map_nil]

theorem flatten_layers : g.layers.flatten = g.reachedLayers.flatten ++ g.unreached := by
  obtain ⟨behind, heq, -, -⟩ := g.exists_reachedLayers_eq
  rw [layers]
  split
  · next hnone =>
    have hids := g.nodeIds_of_isEmpty hnone
    have hreached : g.reachedLayers.flatten = [] :=
      List.subset_nil.1 (hids ▸ g.flatten_reachedLayers_subset)
    rw [hreached, unreached, hids]
    rfl
  · exact flatten_extendLast _ (by simp [heq])

/-- No node stands at two places. -/
theorem nodup_flatten_layers : g.layers.flatten.Nodup := by
  rw [flatten_layers, List.nodup_append]
  refine ⟨g.nodup_flatten_reachedLayers, g.nodup.filter _, fun id hid other hother heq => ?_⟩
  exact (g.mem_unreached.1 hother).2 (heq ▸ hid)

/-- The nodes stand in the layers, and nothing else does. -/
theorem mem_flatten_layers {id : String} : id ∈ g.layers.flatten ↔ id ∈ g.nodeIds := by
  rw [flatten_layers, List.mem_append, mem_unreached]
  refine ⟨fun h => h.elim (fun h => g.flatten_reachedLayers_subset h) And.left, fun h => ?_⟩
  by_cases hreached : id ∈ g.reachedLayers.flatten
  · exact .inl hreached
  · exact .inr ⟨h, hreached⟩

end DiagramBridge.Graph
