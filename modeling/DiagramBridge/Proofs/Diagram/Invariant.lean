import DiagramBridge.Proofs.Diagram.Graph
import DiagramBridge.Proofs.Number.Digits

/-!
# What holds of every node and every edge

A reader builds its graph by mentions, links and additions of members. What every such step keeps
holds of the whole graph in the end. Readers mention both ends of an edge before they link them, so
the ends exist, and a node that exists once is never lost. A later mention of a node changes it if it
is the first one with a label.
-/

namespace DiagramBridge.Graph

/-- All nodes have one property, all edges have another, and the ends of the edges exist. -/
structure Consists (P : Node → Prop) (Q : Edge → Prop) (g : Graph) : Prop where
  nodes : ∀ n ∈ g.nodes, P n
  edges : ∀ e ∈ g.edges, Q e
  ends : ∀ e ∈ g.edges, e.source ∈ g.nodeIds ∧ e.target ∈ g.nodeIds

section

variable {P : Node → Prop} {Q : Edge → Prop} {g : Graph}

theorem consists_empty : Consists P Q .empty :=
  ⟨by simp [empty], by simp [empty], by simp [empty]⟩

theorem Consists.validEdges_eq (h : Consists P Q g) : g.validEdges = g.edges := by
  rw [validEdges, List.filter_eq_self]
  intro e he
  obtain ⟨hsource, htarget⟩ := h.ends e he
  rw [hasNode_iff_mem_nodeIds.2 hsource, hasNode_iff_mem_nodeIds.2 htarget]
  rfl

/-- Where nodes change in place and edges stay, the ends still exist. -/
theorem Consists.of_nodeIds_eq (h : Consists P Q g) {g' : Graph} (hnodes : ∀ n ∈ g'.nodes, P n)
    (hids : ∀ id ∈ g.nodeIds, id ∈ g'.nodeIds) (hedges : g'.edges = g.edges) :
    Consists P Q g' := by
  refine ⟨hnodes, fun e he => ?_, fun e he => ?_⟩
  · exact h.edges e (hedges ▸ he)
  · obtain ⟨hsource, htarget⟩ := h.ends e (hedges ▸ he)
    exact ⟨hids _ hsource, hids _ htarget⟩

/-! ## Mentions -/

/-- The node that a mention with a label makes of one whose label is not settled. -/
def relabelled (m : Mention) (label : String) (n : Node) : Node :=
  { n with label, shape := m.shape.getD n.shape }

/-- A mention appends a node, or it changes the one that it names. -/
theorem nodes_mention_cases (g : Graph) (m : Mention) :
    (g.mention m).nodes = g.nodes ++ [m.toNode] ∨
      m.id ∈ g.nodeIds ∧ ((g.mention m).nodes = g.nodes ∨ ∃ label, m.label = some label ∧
        (g.mention m).nodes =
          g.nodes.map fun n => if n.id = m.id then relabelled m label n else n) := by
  by_cases hnew : g.hasNode m.id = false
  · exact Or.inl (nodes_mention_of_new hnew)
  · refine Or.inr ⟨hasNode_iff_mem_nodeIds.1 (by simpa using hnew), ?_⟩
    rw [mention, dif_neg hnew]
    cases hlabel : m.label with
    | none => exact Or.inl rfl
    | some label =>
        dsimp only
        split
        · exact Or.inl rfl
        · exact Or.inr ⟨label, rfl, rfl⟩

theorem mem_nodes_mention {m : Mention} {n : Node} (hn : n ∈ (g.mention m).nodes) :
    n ∈ g.nodes ∨ n = m.toNode ∨
      ∃ k ∈ g.nodes, ∃ label, m.label = some label ∧ n = relabelled m label k := by
  rcases nodes_mention_cases g m with h | ⟨-, h | ⟨label, hlabel, h⟩⟩
  · rw [h, List.mem_append, List.mem_singleton] at hn
    exact hn.imp_right Or.inl
  · exact Or.inl (h ▸ hn)
  · rw [h] at hn
    obtain ⟨k, hk, rfl⟩ := List.mem_map.1 hn
    by_cases hid : k.id = m.id
    · rw [if_pos hid]
      exact Or.inr (Or.inr ⟨k, hk, label, hlabel, rfl⟩)
    · rw [if_neg hid]
      exact Or.inl hk

/-- A mention keeps all ids and adds its own. -/
theorem mem_nodeIds_mention {m : Mention} {id : String} :
    id ∈ (g.mention m).nodeIds ↔ id ∈ g.nodeIds ∨ id = m.id := by
  rcases nodes_mention_cases g m with h | ⟨hmem, h | ⟨label, -, h⟩⟩
  · rw [nodeIds, h, List.map_append, List.mem_append, List.map_singleton, List.mem_singleton]
    exact Iff.rfl
  · rw [nodeIds, h]
    exact ⟨Or.inl, fun hid => hid.elim (fun hid => hid) fun heq => heq ▸ hmem⟩
  · have hids : (g.mention m).nodeIds = g.nodeIds := by
      rw [nodeIds, h, List.map_map]
      refine List.map_congr_left fun n _ => ?_
      rw [Function.comp_apply]
      split <;> rfl
    rw [hids]
    exact ⟨Or.inl, fun hid => hid.elim (fun hid => hid) fun heq => heq ▸ hmem⟩

theorem Consists.mention (h : Consists P Q g) {m : Mention} (hnew : P m.toNode)
    (hlabel : ∀ n label, P n → m.label = some label → P (relabelled m label n)) :
    Consists P Q (g.mention m) := by
  refine h.of_nodeIds_eq (fun n hn => ?_) (fun id hid => mem_nodeIds_mention.2 (Or.inl hid))
    (edges_mention g m)
  rcases mem_nodes_mention hn with hn | rfl | ⟨k, hk, label, hm, rfl⟩
  · exact h.nodes n hn
  · exact hnew
  · exact hlabel k label (h.nodes k hk) hm

/-! ## Links, members and subgraphs -/

theorem isWord_freshEdgeId (g : Graph) : ∀ c ∈ g.freshEdgeId.toList, Text.isWord c = true := by
  intro c hc
  have hfront : ∀ c ∈ "edge_".toList, Text.isWord c = true := by decide
  rw [freshEdgeId, String.toList_append, toList_decimalString, List.mem_append] at hc
  exact hc.elim (hfront c) isWord_of_mem_decimal

theorem Consists.link (h : Consists P Q g) {l : Link} (hedge : Q (g.edgeOf l))
    (hsource : l.source ∈ g.nodeIds) (htarget : l.target ∈ g.nodeIds) :
    Consists P Q (g.link l) := by
  refine ⟨h.nodes, fun e he => ?_, fun e he => ?_⟩
  · rw [edges_link] at he
    rcases List.mem_append.1 he with he | he
    · exact h.edges e he
    · rwa [List.mem_singleton.1 he]
  · rw [edges_link] at he
    rcases List.mem_append.1 he with he | he
    · exact h.ends e he
    · rw [List.mem_singleton.1 he]
      exact ⟨hsource, htarget⟩

theorem nodeIds_addMember (g : Graph) (id member : String) :
    (g.addMember id member).nodeIds = g.nodeIds := by
  rw [nodeIds, nodeIds, addMember, modifyNode, mapNodes, List.map_map]
  refine List.map_congr_left fun n _ => ?_
  rw [Function.comp_apply]
  split <;> rfl

theorem Consists.addMember (h : Consists P Q g) (id member : String)
    (hmember : ∀ n, P n → P { n with members := n.members ++ [member] }) :
    Consists P Q (g.addMember id member) := by
  refine h.of_nodeIds_eq (fun n hn => ?_) (fun id' hid => ?_) rfl
  · obtain ⟨k, hk, rfl⟩ := List.mem_map.1 hn
    by_cases hid : k.id = id
    · rw [if_pos hid]
      exact hmember k (h.nodes k hk)
    · rw [if_neg hid]
      exact h.nodes k hk
  · rwa [nodeIds_addMember]

theorem Consists.addSubgraph (h : Consists P Q g) (s : Subgraph) :
    Consists P Q (g.addSubgraph s) :=
  ⟨h.nodes, h.edges, h.ends⟩

theorem Consists.enlist (h : Consists P Q g) (place : Nat) (id : String) :
    Consists P Q (g.enlist place id) :=
  ⟨h.nodes, h.edges, h.ends⟩

end

/-! ## Later mentions -/

/-- What a later mention makes of a known node. -/
def mentioned (g : Graph) (m : Mention) (n : Node) : Node :=
  if n.id = m.id ∧ m.id ∉ g.settled then m.label.elim n (relabelled m · n) else n

section

variable {g : Graph} {m : Mention} {n : Node}

theorem mentioned_of_ne (h : n.id ≠ m.id) : g.mentioned m n = n :=
  if_neg fun hboth => h hboth.1

theorem mentioned_of_settled (h : m.id ∈ g.settled) : g.mentioned m n = n :=
  if_neg fun hboth => hboth.2 h

theorem mentioned_of_bare (h : m.label = none) : g.mentioned m n = n := by
  rw [mentioned, h]
  exact ite_self n

theorem mentioned_of_labelled {label : String} (hlabel : m.label = some label) (hid : n.id = m.id)
    (h : m.id ∉ g.settled) : g.mentioned m n = relabelled m label n := by
  rw [mentioned, if_pos ⟨hid, h⟩, hlabel, Option.elim_some]

@[simp] theorem id_mentioned : (g.mentioned m n).id = n.id := by
  rw [mentioned]
  split_ifs
  · cases m.label <;> rfl
  · rfl

theorem nodes_mention_of_known (h : g.hasNode m.id = true) :
    (g.mention m).nodes = g.nodes.map (g.mentioned m) := by
  have hsame : (∀ n, g.mentioned m n = n) → g.nodes = g.nodes.map (g.mentioned m) := by
    intro hid
    rw [List.map_congr_left fun n _ => hid n, List.map_id']
  rw [mention, dif_neg (by simp [h])]
  split
  · next hlabel => exact hsame fun n => mentioned_of_bare hlabel
  · next label hlabel =>
    split
    · next hmem => exact hsame fun n => mentioned_of_settled hmem
    · next hmem =>
      refine List.map_congr_left fun n _ => ?_
      by_cases hid : n.id = m.id
      · rw [if_pos hid, mentioned_of_labelled hlabel hid hmem, relabelled]
      · rw [if_neg hid, mentioned_of_ne hid]

/-- A mention with a label settles its id. -/
theorem mem_settled_mention {id : String} : id ∈ (g.mention m).settled ↔
    id ∈ g.settled ∨ m.id = id ∧ m.label.isSome = true := by
  rw [mention]
  split
  · dsimp only
    split
    · next hlabel => simp [settle, push, hlabel, or_comm, eq_comm]
    · next hlabel => simp [push, hlabel]
  · split
    · next hlabel => simp [hlabel]
    · next label hlabel =>
      split
      · next hmem =>
        refine ⟨.inl, fun h => h.elim (fun h => h) fun h => ?_⟩
        rwa [← h.1]
      · simp [settle, modifyNode, mapNodes, hlabel, or_comm, eq_comm]

end

end DiagramBridge.Graph
