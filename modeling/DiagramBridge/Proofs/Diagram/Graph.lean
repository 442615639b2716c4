import DiagramBridge.Diagram.Graph
import Mathlib.Data.List.Nodup

/-!
# What building steps do to a graph

The first mention of an id appends a node; a later mention may change a label and a shape, but it
keeps the ids and their order. Links append edges, and nothing but links does.
-/

namespace DiagramBridge.Graph

theorem hasNode_iff {g : Graph} {id : String} : g.hasNode id = true ↔ ∃ n ∈ g.nodes, n.id = id := by
  rw [hasNode, List.any_eq_true]
  exact exists_congr fun n => and_congr_right fun _ => beq_iff_eq

theorem hasNode_iff_mem_nodeIds {g : Graph} {id : String} :
    g.hasNode id = true ↔ id ∈ g.nodeIds := by
  rw [hasNode_iff, nodeIds, List.mem_map]

theorem hasNode_eq_false_iff {g : Graph} {id : String} :
    g.hasNode id = false ↔ ∀ n ∈ g.nodes, n.id ≠ id := by
  rw [← Bool.not_eq_true, hasNode_iff]
  push Not
  exact Iff.rfl

/-- Ids are distinct, so a node is the first one with its id. -/
theorem node?_of_mem {g : Graph} {n : Node} (hn : n ∈ g.nodes) : g.node? n.id = some n := by
  rw [node?, List.find?_eq_some_iff_append]
  obtain ⟨front, back, heq⟩ := List.append_of_mem hn
  refine ⟨by simp, front, back, heq, fun k hk => ?_⟩
  have hnodup : ((front ++ n :: back).map Node.id).Nodup := heq ▸ g.nodup
  rw [List.map_append, List.nodup_append] at hnodup
  have hne := hnodup.2.2 k.id (List.mem_map_of_mem hk) n.id (by simp)
  simpa using hne

theorem eq_of_id_eq {g : Graph} {n m : Node} (hn : n ∈ g.nodes) (hm : m ∈ g.nodes)
    (h : n.id = m.id) : n = m :=
  List.inj_on_of_nodup_map g.nodup hn hm h

theorem mem_validEdges {g : Graph} {e : Edge} :
    e ∈ g.validEdges ↔ e ∈ g.edges ∧ e.source ∈ g.nodeIds ∧ e.target ∈ g.nodeIds := by
  rw [validEdges, List.mem_filter, Bool.and_eq_true, hasNode_iff_mem_nodeIds,
    hasNode_iff_mem_nodeIds]

/-! ## Mentions -/

theorem nodes_mention_of_new {g : Graph} {m : Mention} (h : g.hasNode m.id = false) :
    (g.mention m).nodes = g.nodes ++ [m.toNode] := by
  rw [mention, dif_pos h]
  dsimp only
  split <;> rfl

theorem nodes_mention_of_bare {g : Graph} {m : Mention} (h : g.hasNode m.id = true)
    (hm : m.label = none) : g.mention m = g := by
  rw [mention, dif_neg (by simp [h]), hm]

@[simp] theorem edges_mention (g : Graph) (m : Mention) : (g.mention m).edges = g.edges := by
  rw [mention]
  split
  · dsimp only
    split <;> rfl
  · split
    · rfl
    · split <;> rfl

@[simp] theorem subgraphs_mention (g : Graph) (m : Mention) :
    (g.mention m).subgraphs = g.subgraphs := by
  rw [mention]
  split
  · dsimp only
    split <;> rfl
  · split
    · rfl
    · split <;> rfl

/-! ## Links -/

@[simp] theorem edges_link (g : Graph) (l : Link) : (g.link l).edges = g.edges ++ [g.edgeOf l] :=
  rfl

/-! ## Members -/

/-- A member that is added to the last node is added to no other. -/
theorem nodes_addMember_last {g : Graph} {ns : List Node} {n : Node} (h : g.nodes = ns ++ [n])
    (member : String) :
    (g.addMember n.id member).nodes = ns ++ [{ n with members := n.members ++ [member] }] := by
  have hnodes : (g.addMember n.id member).nodes = g.nodes.map fun k =>
      if k.id = n.id then { k with members := k.members ++ [member] } else k := rfl
  have hnodup : ((ns ++ [n]).map Node.id).Nodup := h ▸ g.nodup
  have hother : ∀ k ∈ ns, k.id ≠ n.id := by
    intro k hk heq
    rw [List.map_append, List.nodup_append] at hnodup
    exact hnodup.2.2 k.id (List.mem_map_of_mem hk) n.id (by simp) heq
  rw [hnodes, h, List.map_append, List.map_singleton, if_pos rfl,
    List.map_congr_left fun k hk => if_neg (hother k hk), List.map_id']

/-! ## Many steps of one kind -/

/-- Nodes whose ids are new are appended. -/
theorem foldl_put {ns : List Node} {g : Graph} (h : ((g.nodes ++ ns).map Node.id).Nodup) :
    ns.foldl put g = ⟨g.nodes ++ ns, g.edges, g.subgraphs, g.settled, h⟩ := by
  induction ns generalizing g with
  | nil => simp
  | cons n ns ih =>
      have hnew : g.hasNode n.id = false := by
        rw [hasNode_eq_false_iff]
        intro k hk heq
        rw [List.map_append, List.nodup_append] at h
        exact h.2.2 k.id (List.mem_map_of_mem hk) n.id (by simp) heq
      have hnodup : (((g.push n hnew).nodes ++ ns).map Node.id).Nodup := by
        rwa [push, List.append_assoc, List.singleton_append]
      rw [List.foldl_cons, put, dif_pos hnew, ih hnodup]
      simp [push]

theorem foldl_addEdge (es : List Edge) (g : Graph) :
    es.foldl addEdge g = { g with edges := g.edges ++ es } := by
  induction es generalizing g with
  | nil => simp
  | cons e es ih => rw [List.foldl_cons, ih, addEdge, List.append_assoc, List.singleton_append]

theorem foldl_addSubgraph (ss : List Subgraph) (g : Graph) :
    ss.foldl addSubgraph g = { g with subgraphs := g.subgraphs ++ ss } := by
  induction ss generalizing g with
  | nil => simp
  | cons s ss ih => rw [List.foldl_cons, ih, addSubgraph, List.append_assoc, List.singleton_append]

theorem nodes_foldl_addSubgraph (ss : List Subgraph) (g : Graph) :
    (ss.foldl addSubgraph g).nodes = g.nodes := by
  rw [foldl_addSubgraph]

theorem edges_foldl_addSubgraph (ss : List Subgraph) (g : Graph) :
    (ss.foldl addSubgraph g).edges = g.edges := by
  rw [foldl_addSubgraph]

theorem subgraphs_foldl_addSubgraph (ss : List Subgraph) (g : Graph) :
    (ss.foldl addSubgraph g).subgraphs = g.subgraphs ++ ss := by
  rw [foldl_addSubgraph]

end DiagramBridge.Graph
