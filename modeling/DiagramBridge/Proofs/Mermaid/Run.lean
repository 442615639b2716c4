import DiagramBridge.Proofs.Diagram.Graph
import DiagramBridge.Proofs.Mermaid.Identifier

/-!
# Runs over written lines

A written text has the lines of its nodes first and those of its edges behind them. If the lines of
a node with a new id append that node, and the line of an edge between nodes that exist appends that
edge, then the whole text gives all nodes and all edges in order. Nothing else is asked of the
reader.
-/

namespace DiagramBridge.Mermaid

open Text

section

variable {σ : Type} (graph : σ → Graph) (IsReady : σ → Prop)

/-- One state follows on another when nodes and edges were appended and the reader is ready for the
next line. -/
structure Appends (p q : σ) (ns : List Node) (es : List Edge) : Prop where
  ready : IsReady q
  nodes : (graph q).nodes = (graph p).nodes ++ ns
  edges : (graph q).edges = (graph p).edges ++ es

variable {graph IsReady} {readLine : σ → List Char → σ}

/-- The lines of nodes with new ids append these nodes. -/
theorem appends_nodes {block : Node → List (List Char)} {image : Node → Node} {ns : List Node}
    (hblock : ∀ p, ∀ n ∈ ns, IsReady p → (graph p).hasNode (image n).id = false →
      Appends graph IsReady p ((block n).foldl readLine p) [image n] [])
    {p : σ} (hp : IsReady p) (hnew : ∀ n ∈ ns, (graph p).hasNode (image n).id = false)
    (hnodup : (ns.map fun n => (image n).id).Nodup) :
    Appends graph IsReady p ((ns.flatMap block).foldl readLine p) (ns.map image) [] := by
  induction ns generalizing p with
  | nil => exact ⟨hp, (List.append_nil _).symm, (List.append_nil _).symm⟩
  | cons n ns ih =>
      have hfirst := hblock p n (by simp) hp (hnew n (by simp))
      rw [List.map_cons, List.nodup_cons] at hnodup
      -- The ids still to come must be new to the node that was just appended too.
      have hnew' : ∀ m ∈ ns,
          (graph ((block n).foldl readLine p)).hasNode (image m).id = false := by
        intro m hm
        rw [Graph.hasNode_eq_false_iff, hfirst.nodes]
        intro k hk
        rcases List.mem_append.1 hk with hk | hk
        · exact Graph.hasNode_eq_false_iff.1 (hnew m (by simp [hm])) k hk
        · rw [List.mem_singleton.1 hk]
          intro heq
          rw [heq] at hnodup
          exact hnodup.1 (List.mem_map_of_mem (f := fun n => (image n).id) hm)
      have hrest := ih (fun q m hm => hblock q m (by simp [hm])) hfirst.ready hnew' hnodup.2
      rw [List.flatMap_cons, List.foldl_append]
      refine ⟨hrest.ready, ?_, ?_⟩
      · rw [hrest.nodes, hfirst.nodes, List.map_cons, List.append_assoc, List.singleton_append]
      · rw [hrest.edges, hfirst.edges, List.append_nil]

/-- The lines of edges between nodes that exist append these edges, each in its place. -/
theorem appends_edges {line : Edge → List Char} {image : Nat → Edge → Edge} {es : List Edge}
    {ns : List Node}
    (hline : ∀ p, ∀ e ∈ es, IsReady p → (graph p).nodes = ns →
      Appends graph IsReady p (readLine p (line e)) [] [image (graph p).edges.length e])
    {p : σ} (hp : IsReady p) (hns : (graph p).nodes = ns) :
    Appends graph IsReady p ((es.map line).foldl readLine p) []
      (es.mapIdx fun i e => image ((graph p).edges.length + i) e) := by
  induction es generalizing p with
  | nil => exact ⟨hp, (List.append_nil _).symm, (List.append_nil _).symm⟩
  | cons e es ih =>
      have hfirst := hline p e (by simp) hp hns
      have hnodes : (graph (readLine p (line e))).nodes = ns := by
        rw [hfirst.nodes, List.append_nil, hns]
      have hrest := ih (fun q d hd => hline q d (by simp [hd])) hfirst.ready hnodes
      rw [List.map_cons, List.foldl_cons]
      refine ⟨hrest.ready, ?_, ?_⟩
      · rw [hrest.nodes, hfirst.nodes, List.append_nil]
      · rw [hrest.edges, hfirst.edges, List.mapIdx_cons, List.append_assoc, List.length_append,
          List.length_singleton]
        simp only [List.singleton_append, Nat.add_zero, Nat.add_assoc, Nat.add_comm 1]

/-- A whole written text gives its nodes and its edges in order. -/
theorem nodes_edges_written {block : Node → List (List Char)} {line : Edge → List Char}
    {nodeImage : Node → Node} {edgeImage : Nat → Edge → Edge} {ns : List Node} {es : List Edge}
    (hblock : ∀ p, ∀ n ∈ ns, IsReady p → (graph p).hasNode (nodeImage n).id = false →
      Appends graph IsReady p ((block n).foldl readLine p) [nodeImage n] [])
    (hline : ∀ p, ∀ e ∈ es, IsReady p → (graph p).nodes = ns.map nodeImage →
      Appends graph IsReady p (readLine p (line e)) [] [edgeImage (graph p).edges.length e])
    (hnodup : (ns.map fun n => (nodeImage n).id).Nodup) {start : σ} (hstart : IsReady start)
    (hempty : graph start = .empty) :
    (graph ((ns.flatMap block ++ es.map line).foldl readLine start)).nodes = ns.map nodeImage ∧
      (graph ((ns.flatMap block ++ es.map line).foldl readLine start)).edges =
        es.mapIdx edgeImage := by
  have hnone : (graph start).nodes = [] ∧ (graph start).edges = [] := by
    rw [hempty]
    exact ⟨rfl, rfl⟩
  have hnodes := appends_nodes hblock hstart
    (fun n _ => by rw [Graph.hasNode, hnone.1]; rfl) hnodup
  have hnodes' := hnodes.nodes
  rw [hnone.1, List.nil_append] at hnodes'
  have hedges := appends_edges hline hnodes.ready hnodes'
  have hlength : (graph ((ns.flatMap block).foldl readLine start)).edges = [] := by
    rw [hnodes.edges, hnone.2, List.append_nil]
  rw [List.foldl_append]
  refine ⟨hedges.nodes.trans ?_, hedges.edges.trans ?_⟩
  · rw [List.append_nil, hnodes']
  · simp only [hlength, List.nil_append, List.length_nil, Nat.zero_add]

/-- The case of a text with one line for each node. -/
theorem nodes_edges_of_lines {nodeLine : Node → List Char} {line : Edge → List Char}
    {nodeImage : Node → Node} {edgeImage : Nat → Edge → Edge} {ns : List Node} {es : List Edge}
    (hnode : ∀ p, ∀ n ∈ ns, IsReady p → (graph p).hasNode (nodeImage n).id = false →
      Appends graph IsReady p (readLine p (nodeLine n)) [nodeImage n] [])
    (hline : ∀ p, ∀ e ∈ es, IsReady p → (graph p).nodes = ns.map nodeImage →
      Appends graph IsReady p (readLine p (line e)) [] [edgeImage (graph p).edges.length e])
    (hnodup : (ns.map fun n => (nodeImage n).id).Nodup) {start : σ} (hstart : IsReady start)
    (hempty : graph start = .empty) :
    (graph ((ns.map nodeLine ++ es.map line).foldl readLine start)).nodes = ns.map nodeImage ∧
      (graph ((ns.map nodeLine ++ es.map line).foldl readLine start)).edges =
        es.mapIdx edgeImage := by
  rw [List.map_eq_flatMap (f := nodeLine)]
  exact nodes_edges_written hnode hline hnodup hstart hempty

end

/-- The ids under which nodes are read are those of nodes that exist. -/
theorem hasNode_of_map {g g' : Graph} {image : Node → Node} {ids : String → String}
    (hid : ∀ n, (image n).id = ids n.id) (hg' : g'.nodes = g.nodes.map image) {id : String}
    (h : id ∈ g.nodeIds) : g'.hasNode (ids id) = true := by
  obtain ⟨n, hn, rfl⟩ := List.mem_map.1 h
  rw [Graph.hasNode_iff, hg']
  exact ⟨image n, List.mem_map_of_mem hn, hid n⟩

/-- An edge whose ends are among the given nodes, under ids that are words. -/
structure HasWordEnds (g : Graph) (ids : String → String) (e : Edge) : Prop where
  source : (ids e.source).toList ≠ []
  target : (ids e.target).toList ≠ []
  wordSource : ∀ c ∈ (ids e.source).toList, isWord c = true
  wordTarget : ∀ c ∈ (ids e.target).toList, isWord c = true
  hasSource : g.hasNode (ids e.source) = true
  hasTarget : g.hasNode (ids e.target) = true

/-- Where every node is read under its Mermaid id, the lines of valid edges find both their ends. -/
theorem hasWordEnds {g g' : Graph} {image : Node → Node} (hid : ∀ n, (image n).id = idOf g n.id)
    (hg' : g'.nodes = g.nodes.map image) {e : Edge} (he : e ∈ g.validEdges) :
    HasWordEnds g' (idOf g) e := by
  obtain ⟨-, hsource, htarget⟩ := Graph.mem_validEdges.1 he
  exact
    { source := idOf_toList_ne_nil hsource
      target := idOf_toList_ne_nil htarget
      wordSource := fun c => isWord_of_mem_idOf hsource
      wordTarget := fun c => isWord_of_mem_idOf htarget
      hasSource := hasNode_of_map hid hg' hsource
      hasTarget := hasNode_of_map hid hg' htarget }

theorem map_mapIdx_eq {α : Type} {f : Edge → α} {image : Nat → Edge → Edge}
    (h : ∀ i e, f (image i e) = f (image 0 e)) (es : List Edge) :
    (es.mapIdx image).map f = es.map fun e => f (image 0 e) :=
  List.ext_getElem (by simp) fun i _ _ => by simp [h i]

end DiagramBridge.Mermaid
