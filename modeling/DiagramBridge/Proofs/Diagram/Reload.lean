import DiagramBridge.Proofs.Diagram.Invariant
import DiagramBridge.Proofs.Diagram.Storage
import Mathlib.Data.List.Induction

/-!
# Adding to a graph that has returned

A graph remembers which labels were given explicitly, and keeps these labels. What is stored of it
does not say which they are. So when a graph has returned from JSON and more is added to both, the
two go on alike but for the nodes that had their labels: the original keeps them, and each node of
the other takes the first label that it is mentioned with. `Follows` says so of two graphs after the
same additions, and every addition keeps it.
-/

namespace DiagramBridge

/-- What can be added to a graph. -/
inductive Addition where
  | node (m : Mention)
  | edge (l : Link)
  | subgraph (s : Subgraph)

/-- The mention of an id and the label in it, if an addition is one with a label. -/
def Addition.labelling? (id : String) : Addition → Option (Mention × String)
  | node m => if m.id = id then m.label.map (m, ·) else none
  | edge _ => none
  | subgraph _ => none

/-- The first mention of an id that has a label. -/
def firstLabelling? (as : List Addition) (id : String) : Option (Mention × String) :=
  as.findSome? (Addition.labelling? id)

theorem firstLabelling?_append_singleton (as : List Addition) (a : Addition) (id : String) :
    firstLabelling? (as ++ [a]) id = (firstLabelling? as id).or (a.labelling? id) := by
  rw [firstLabelling?, List.findSome?_append, List.findSome?_singleton, firstLabelling?]

namespace Graph

def add (g : Graph) : Addition → Graph
  | .node m => g.mention m
  | .edge l => g.link l
  | .subgraph s => g.addSubgraph s

def addAll (g : Graph) (as : List Addition) : Graph :=
  as.foldl add g

theorem addAll_append_singleton (g : Graph) (as : List Addition) (a : Addition) :
    g.addAll (as ++ [a]) = (g.addAll as).add a := by
  rw [addAll, List.foldl_append, List.foldl_cons, List.foldl_nil, addAll]

/-! ## Settled labels -/

theorem mem_settled_add {g : Graph} {a : Addition} {id : String} :
    id ∈ (g.add a).settled ↔ id ∈ g.settled ∨ (a.labelling? id).isSome = true := by
  cases a with
  | node m =>
      have hlabelling : ((Addition.node m).labelling? id).isSome = true ↔
          m.id = id ∧ m.label.isSome = true := by
        rw [Addition.labelling?]
        split_ifs with hid <;> simp [hid]
      rw [hlabelling, add, mem_settled_mention]
  | edge l => simp [add, link, addEdge, Addition.labelling?]
  | subgraph s => simp [add, addSubgraph, Addition.labelling?]

/-- The labels that are settled are those that some mention has given. -/
theorem mem_settled_addAll {g : Graph} {as : List Addition} {id : String} :
    id ∈ (g.addAll as).settled ↔ id ∈ g.settled ∨ (firstLabelling? as id).isSome = true := by
  induction as using List.reverseRecOn with
  | nil => simp [addAll, firstLabelling?]
  | append_singleton as a ih =>
      rw [addAll_append_singleton, mem_settled_add, ih, firstLabelling?_append_singleton,
        Option.isSome_or, Bool.or_eq_true, or_assoc]

theorem mem_nodeIds_add {g : Graph} (a : Addition) {id : String} (h : id ∈ g.nodeIds) :
    id ∈ (g.add a).nodeIds := by
  cases a with
  | node m => exact mem_nodeIds_mention.2 (.inl h)
  | edge l => exact h
  | subgraph s => exact h

/-- A settled label is that of a node. -/
theorem mem_nodeIds_of_mem_settled (as : List Addition) :
    ∀ id ∈ (empty.addAll as).settled, id ∈ (empty.addAll as).nodeIds := by
  induction as using List.reverseRecOn with
  | nil => simp [addAll, empty]
  | append_singleton as a ih =>
      intro id hid
      rw [addAll_append_singleton] at hid ⊢
      rcases mem_settled_add.1 hid with hid | hid
      · exact mem_nodeIds_add a (ih id hid)
      · cases a with
        | node m =>
            rw [Addition.labelling?] at hid
            split_ifs at hid with hm
            · exact mem_nodeIds_mention.2 (.inr hm.symm)
            · exact absurd hid (by simp)
        | edge l => exact absurd hid (by simp [Addition.labelling?])
        | subgraph s => exact absurd hid (by simp [Addition.labelling?])

/-! ## Settled labels are kept -/

section

variable {g : Graph} {n : Node}

/-- A node keeps a label that is settled. -/
theorem mem_nodes_add_of_settled (hn : n ∈ g.nodes) (h : n.id ∈ g.settled) (a : Addition) :
    n ∈ (g.add a).nodes := by
  cases a with
  | node m =>
      by_cases hnew : g.hasNode m.id = false
      · rw [add, nodes_mention_of_new hnew]
        exact List.mem_append_left _ hn
      · rw [add, nodes_mention_of_known (by simpa using hnew)]
        refine List.mem_map.2 ⟨n, hn, ?_⟩
        by_cases hid : n.id = m.id
        · exact mentioned_of_settled (hid ▸ h)
        · exact mentioned_of_ne hid
  | edge l => exact hn
  | subgraph s => exact hn

theorem mem_nodes_addAll_of_settled (hn : n ∈ g.nodes) (h : n.id ∈ g.settled) (as : List Addition) :
    n ∈ (g.addAll as).nodes := by
  induction as using List.reverseRecOn with
  | nil => exact hn
  | append_singleton as a ih =>
      rw [addAll_append_singleton]
      exact mem_nodes_add_of_settled ih (mem_settled_addAll.2 (.inl h)) a

end

/-! ## Two graphs after the same additions -/

/-- A node as the first labelled mention leaves it, where its label is among those that were lost. -/
def overwritten (lost : List String) (as : List Addition) (n : Node) : Node :=
  if n.id ∈ lost then (firstLabelling? as n.id).elim n fun f => relabelled f.1 f.2 n else n

section

variable {lost : List String} {as : List Addition} {n : Node}

theorem overwritten_of_not_mem (h : n.id ∉ lost) : overwritten lost as n = n :=
  if_neg h

theorem overwritten_of_first (h : n.id ∈ lost) {m : Mention} {label : String}
    (hfirst : firstLabelling? as n.id = some (m, label)) :
    overwritten lost as n = relabelled m label n := by
  rw [overwritten, if_pos h, hfirst, Option.elim_some]

theorem overwritten_of_none (h : firstLabelling? as n.id = none) : overwritten lost as n = n := by
  rw [overwritten, h]
  exact ite_self n

@[simp] theorem id_overwritten : (overwritten lost as n).id = n.id := by
  rw [overwritten]
  split_ifs
  · cases firstLabelling? as n.id <;> rfl
  · rfl

/-- An addition overwrites a node only by giving the first label. -/
theorem overwritten_append_singleton {a : Addition}
    (h : a.labelling? n.id = none ∨ (firstLabelling? as n.id).isSome = true) :
    overwritten lost (as ++ [a]) n = overwritten lost as n := by
  have hfirst : firstLabelling? (as ++ [a]) n.id = firstLabelling? as n.id := by
    rw [firstLabelling?_append_singleton]
    rcases h with h | h
    · rw [h, Option.or_none]
    · exact Option.or_eq_left_of_isSome h
  rw [overwritten, overwritten, hfirst]

end

/-- The second graph has the additions of the first, but had lost which labels were settled. -/
structure Follows (lost : List String) (as : List Addition) (g h : Graph) : Prop where
  nodes : h.nodes = g.nodes.map (overwritten lost as)
  edges : h.edges = g.edges
  subgraphs : h.subgraphs = g.subgraphs
  settled : ∀ id, id ∈ g.settled ↔ id ∈ lost ∨ id ∈ h.settled
  labelled : ∀ id, id ∈ h.settled ↔ (firstLabelling? as id).isSome = true
  known : ∀ id ∈ lost, id ∈ g.nodeIds

section

variable {lost : List String} {as : List Addition} {g h : Graph}

theorem Follows.hasNode_eq (hf : Follows lost as g h) (id : String) : h.hasNode id = g.hasNode id := by
  rw [hasNode, hf.nodes, List.any_map, hasNode]
  congr 1
  funext n
  rw [Function.comp_apply, id_overwritten]

/-- A mention does the same to both nodes of an id, unless it gives the lost label anew. -/
theorem Follows.mentioned_overwritten (hf : Follows lost as g h) (m : Mention) (n : Node) :
    h.mentioned m (overwritten lost as n) =
      overwritten lost (as ++ [.node m]) (g.mentioned m n) := by
  by_cases hid : n.id = m.id
  · cases hlabel : m.label with
    | none =>
        have hbare : (Addition.node m).labelling? n.id = none := by
          rw [Addition.labelling?, if_pos hid.symm, hlabel, Option.map_none]
        rw [mentioned_of_bare hlabel, mentioned_of_bare hlabel,
          overwritten_append_singleton (.inl hbare)]
    | some label =>
        by_cases hlost : m.id ∈ lost
        · have hg : m.id ∈ g.settled := (hf.settled m.id).2 (.inl hlost)
          rw [mentioned_of_settled hg]
          by_cases hh : m.id ∈ h.settled
          · have hfirst : (firstLabelling? as n.id).isSome = true := by
              rw [hid]
              exact (hf.labelled m.id).1 hh
            rw [mentioned_of_settled hh, overwritten_append_singleton (.inr hfirst)]
          · have hnone : firstLabelling? as n.id = none := by
              rw [hid, ← Option.not_isSome_iff_eq_none]
              exact mt (hf.labelled m.id).2 hh
            have hfirst : firstLabelling? (as ++ [.node m]) n.id = some (m, label) := by
              rw [firstLabelling?_append_singleton, hnone, Option.none_or, Addition.labelling?,
                if_pos hid.symm, hlabel, Option.map_some]
            rw [overwritten_of_none hnone, mentioned_of_labelled hlabel hid hh,
              overwritten_of_first (hid ▸ hlost) hfirst]
        · have hsettled : m.id ∈ h.settled ↔ m.id ∈ g.settled := by
            rw [hf.settled, or_iff_right hlost]
          have hsame : h.mentioned m n = g.mentioned m n := by
            simp only [mentioned, hsettled]
          rw [overwritten_of_not_mem (by rwa [hid]), hsame,
            overwritten_of_not_mem (by rwa [id_mentioned, hid])]
  · have hother : (Addition.node m).labelling? n.id = none := if_neg (Ne.symm hid)
    rw [mentioned_of_ne (by rwa [id_overwritten]), mentioned_of_ne hid,
      overwritten_append_singleton (.inl hother)]

theorem Follows.nodes_mention (hf : Follows lost as g h) (m : Mention) :
    (h.mention m).nodes = (g.mention m).nodes.map (overwritten lost (as ++ [.node m])) := by
  by_cases hnew : g.hasNode m.id = false
  · have hfresh : m.toNode.id ∉ lost := fun hmem => not_mem_nodeIds hnew (hf.known _ hmem)
    have hother : ∀ n ∈ g.nodes, (Addition.node m).labelling? n.id = none := fun n hn =>
      if_neg (Ne.symm (hasNode_eq_false_iff.1 hnew n hn))
    rw [nodes_mention_of_new hnew, nodes_mention_of_new (hf.hasNode_eq m.id ▸ hnew), hf.nodes,
      List.map_append, List.map_singleton, overwritten_of_not_mem hfresh]
    congr 1
    exact List.map_congr_left fun n hn => (overwritten_append_singleton (.inl (hother n hn))).symm
  · have hknown : g.hasNode m.id = true := by simpa using hnew
    rw [nodes_mention_of_known hknown, nodes_mention_of_known (hf.hasNode_eq m.id ▸ hknown),
      hf.nodes, List.map_map, List.map_map]
    exact List.map_congr_left fun n _ => hf.mentioned_overwritten m n

/-- Every addition keeps the two graphs alike. -/
theorem Follows.add (hf : Follows lost as g h) (a : Addition) :
    Follows lost (as ++ [a]) (g.add a) (h.add a) where
  nodes := by
    have hsame : (∀ id, a.labelling? id = none) → h.nodes =
        g.nodes.map (overwritten lost (as ++ [a])) := by
      intro hnone
      rw [hf.nodes]
      exact List.map_congr_left fun n _ => (overwritten_append_singleton (.inl (hnone n.id))).symm
    cases a with
    | node m => exact hf.nodes_mention m
    | edge l => exact hsame fun _ => rfl
    | subgraph s => exact hsame fun _ => rfl
  edges := by
    cases a with
    | node m => rw [Graph.add, Graph.add, edges_mention, edges_mention, hf.edges]
    | edge l =>
        have hid : h.freshEdgeId = g.freshEdgeId := by rw [freshEdgeId, hf.edges, freshEdgeId]
        rw [Graph.add, Graph.add, edges_link, edges_link, hf.edges, edgeOf, hid, edgeOf]
    | subgraph s => exact hf.edges
  subgraphs := by
    cases a with
    | node m => rw [Graph.add, Graph.add, subgraphs_mention, subgraphs_mention, hf.subgraphs]
    | edge l => exact hf.subgraphs
    | subgraph s => rw [Graph.add, Graph.add, addSubgraph, addSubgraph, hf.subgraphs]
  settled id := by rw [mem_settled_add, mem_settled_add, hf.settled, or_assoc]
  labelled id := by
    rw [mem_settled_add, hf.labelled, firstLabelling?_append_singleton, Option.isSome_or,
      Bool.or_eq_true]
  known id hid := mem_nodeIds_add a (hf.known id hid)

end

/-- The same graph without its settled labels, after any additions to both. -/
theorem follows_addAll {g : Graph} (hsettled : ∀ id ∈ g.settled, id ∈ g.nodeIds)
    (as : List Addition) :
    Follows g.settled as (g.addAll as) (addAll { g with settled := [] } as) := by
  induction as using List.reverseRecOn with
  | nil =>
      have hnone : ∀ n ∈ g.nodes, n = overwritten g.settled [] n := fun n _ =>
        (overwritten_of_none rfl).symm
      exact
        { nodes := ((List.map_congr_left hnone).symm.trans (List.map_id' _)).symm
          edges := rfl
          subgraphs := rfl
          settled := fun id => by simp [addAll]
          labelled := fun id => by simp [addAll, firstLabelling?]
          known := hsettled }
  | append_singleton as a ih =>
      rw [addAll_append_singleton, addAll_append_singleton]
      exact ih.add a

/-! ## What is stored -/

theorem toJson_eq_iff {g h : Graph} : h.toJson = g.toJson ↔
    h.nodes = g.nodes ∧ h.edges = g.edges ∧ h.subgraphs = g.subgraphs := by
  constructor
  · intro heq
    have hback := ofJson_toJson h
    rw [heq, ofJson_toJson g] at hback
    have hgraph := Except.ok.inj hback
    simp only [Graph.mk.injEq] at hgraph
    exact ⟨hgraph.1.symm, hgraph.2.1.symm, hgraph.2.2.1.symm⟩
  · rintro ⟨hnodes, hedges, hsubgraphs⟩
    rw [toJson, hnodes, hedges, hsubgraphs, toJson]

theorem relabelled_eq_iff {m : Mention} {label : String} {n : Node} :
    relabelled m label n = n ↔ label = n.label ∧ m.shape.getD n.shape = n.shape := by
  obtain ⟨id, text, shape, kind, members, geometry, style⟩ := n
  simp [relabelled]

/-- The two graphs are stored alike as long as no node is overwritten. -/
theorem Follows.toJson_eq_iff {lost : List String} {as : List Addition} {g h : Graph}
    (hf : Follows lost as g h) :
    h.toJson = g.toJson ↔ ∀ n ∈ g.nodes, overwritten lost as n = n := by
  rw [Graph.toJson_eq_iff, and_iff_left ⟨hf.edges, hf.subgraphs⟩, hf.nodes]
  constructor
  · intro heq n hn
    exact List.map_inj_left.1 (heq.trans (List.map_id _).symm) n hn
  · intro hsame
    rw [List.map_congr_left hsame, List.map_id']

/-- **A graph that returns from JSON goes on like the original** exactly as long as every node with an
explicit label, if it is mentioned with a label again, is mentioned with the label and the shape that
it has. -/
theorem toJson_addAll_eq_iff (built further : List Addition) :
    ∃ back, ofJson (empty.addAll built).toJson = .ok back ∧
      ((back.addAll further).toJson = ((empty.addAll built).addAll further).toJson ↔
        ∀ n ∈ (empty.addAll built).nodes, (firstLabelling? built n.id).isSome = true →
          ∀ m label, firstLabelling? further n.id = some (m, label) →
            label = n.label ∧ m.shape.getD n.shape = n.shape) := by
  have hknown := mem_nodeIds_of_mem_settled built
  have hexplicit : ∀ id, id ∈ (empty.addAll built).settled ↔
      (firstLabelling? built id).isSome = true := by
    intro id
    rw [mem_settled_addAll, or_iff_right (by simp [empty])]
  generalize empty.addAll built = g at hknown hexplicit ⊢
  refine ⟨_, ofJson_toJson g, ?_⟩
  rw [(follows_addAll hknown further).toJson_eq_iff]
  constructor
  · intro hsame n hn hlabelled m label hfirst
    have hmem : n.id ∈ g.settled := (hexplicit n.id).2 hlabelled
    rw [← relabelled_eq_iff, ← overwritten_of_first hmem hfirst]
    exact hsame n (mem_nodes_addAll_of_settled hn hmem further)
  · intro hsame n hn
    by_cases hmem : n.id ∈ g.settled
    · cases hfirst : firstLabelling? further n.id with
      | none => exact overwritten_of_none hfirst
      | some f =>
          obtain ⟨m, label⟩ := f
          rw [overwritten_of_first hmem hfirst, relabelled_eq_iff]
          -- A node with a settled label is the one that the original had.
          obtain ⟨k, hk, hid⟩ := List.mem_map.1 (hknown n.id hmem)
          have hlater : k ∈ (g.addAll further).nodes :=
            mem_nodes_addAll_of_settled hk (hid ▸ hmem) further
          have hsome := node?_of_mem hlater
          rw [hid, node?_of_mem hn] at hsome
          rw [Option.some.inj hsome] at hfirst hmem ⊢
          exact hsame k hk ((hexplicit k.id).1 hmem) m label hfirst
    · exact overwritten_of_not_mem hmem

/-- A label that was given explicitly is lost when the graph has returned and another one comes. -/
theorem exists_toJson_addAll_ne :
    ∃ back, ofJson (empty.addAll [.node { id := "A", label := some "First" }]).toJson = .ok back ∧
      (back.addAll [.node { id := "A", label := some "Second" }]).nodes.map Node.label =
        ["Second"] ∧
      (back.addAll [.node { id := "A", label := some "Second" }]).toJson ≠
        ((empty.addAll [.node { id := "A", label := some "First" }]).addAll
          [.node { id := "A", label := some "Second" }]).toJson :=
  ⟨_, ofJson_toJson _, by decide, fun heq => absurd (toJson_eq_iff.1 heq).1 (by decide)⟩

end Graph

end DiagramBridge
