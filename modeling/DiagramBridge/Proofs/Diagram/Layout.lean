import DiagramBridge.Diagram.Layout
import DiagramBridge.Proofs.Diagram.Layering
import DiagramBridge.Proofs.Text.Fresh

/-!
# What the layout does to a graph

Of a node the layout can change the box and nothing else, and it keeps edges and subgraphs. Where a
node comes to stand is decided by its place in the layers, and no part of the picture lies beyond
the edge of the page. A node with a usable box is left alone, so laying a graph out again does
nothing.
-/

namespace DiagramBridge

/-- A settled node differs from the node in its box at most. -/
theorem Layout.exists_settleNode_eq (places : List (String × Place)) (n : Node) :
    ∃ box, settleNode places n = { n with geometry := box } := by
  rw [settleNode]
  split
  · exact ⟨n.geometry, rfl⟩
  · split
    · exact ⟨_, rfl⟩
    · exact ⟨n.geometry, rfl⟩

namespace Graph

theorem nodes_layout (g : Graph) :
    g.layout.nodes = g.nodes.map (Layout.settleNode (Layout.places g)) := rfl

theorem exists_of_mem_layout {g : Graph} {n : Node} (h : n ∈ g.layout.nodes) :
    ∃ m ∈ g.nodes, ∃ box, n = { m with geometry := box } := by
  rw [nodes_layout] at h
  obtain ⟨m, hm, rfl⟩ := List.mem_map.1 h
  obtain ⟨box, hbox⟩ := Layout.exists_settleNode_eq (Layout.places g) m
  exact ⟨m, hm, box, hbox⟩

theorem exists_mem_layout_of_mem {g : Graph} {n : Node} (h : n ∈ g.nodes) :
    ∃ box, { n with geometry := box } ∈ g.layout.nodes := by
  obtain ⟨box, hbox⟩ := Layout.exists_settleNode_eq (Layout.places g) n
  refine ⟨box, ?_⟩
  rw [nodes_layout, ← hbox]
  exact List.mem_map_of_mem h

@[simp] theorem edges_layout (g : Graph) : g.layout.edges = g.edges := rfl

@[simp] theorem nodeIds_layout (g : Graph) : g.layout.nodeIds = g.nodeIds := by
  rw [nodeIds, nodes_layout, List.map_map]
  exact List.map_congr_left fun n _ => Layout.id_settleNode _ n

theorem hasNode_layout (g : Graph) (id : String) : g.layout.hasNode id = g.hasNode id := by
  rw [hasNode, hasNode, nodes_layout, List.any_map]
  congr 1
  funext n
  rw [Function.comp_apply, Layout.id_settleNode]

@[simp] theorem validEdges_layout (g : Graph) : g.layout.validEdges = g.validEdges := by
  rw [validEdges, validEdges, edges_layout]
  simp only [hasNode_layout]

/-! ## Places -/

/-- A node is the `i`-th one in the row at a depth. -/
def StandsAt (g : Graph) (id : String) (depth : Nat) (ids : List String) (i : Nat) : Prop :=
  g.layers[depth]? = some ids ∧ ids[i]? = some id

theorem exists_standsAt {g : Graph} {id : String} (h : id ∈ g.nodeIds) :
    ∃ depth ids i, g.StandsAt id depth ids i := by
  obtain ⟨ids, hids, hid⟩ := List.mem_flatten.1 (g.mem_flatten_layers.2 h)
  obtain ⟨depth, hdepth⟩ := List.mem_iff_getElem?.1 hids
  obtain ⟨i, hi⟩ := List.mem_iff_getElem?.1 hid
  exact ⟨depth, ids, i, hdepth, hi⟩

end Graph

namespace Layout

/-- The place for the `i`-th of so many boxes in the row at a depth, in the picture of a graph. -/
def placeAt (g : Graph) (depth length i : Nat) : Place where
  x := column length i + shift (centredPlaces g)
  y := row depth

theorem map_fst_placesOfRow (ids : List String) (depth : Nat) :
    (placesOfRow ids depth).map Prod.fst = ids := by
  rw [placesOfRow, List.map_map]
  exact List.zipIdx_map_fst ..

theorem map_fst_centredPlaces (g : Graph) :
    (centredPlaces g).map Prod.fst = g.layers.flatten := by
  calc (centredPlaces g).map Prod.fst
      = g.layers.zipIdx.flatMap fun p => (placesOfRow p.1 p.2).map Prod.fst := List.map_flatMap ..
    _ = (g.layers.zipIdx.map Prod.fst).flatten := by
        rw [List.flatMap_def]
        simp only [map_fst_placesOfRow]
    _ = g.layers.flatten := by rw [List.zipIdx_map_fst]

theorem map_fst_places (g : Graph) : (places g).map Prod.fst = g.layers.flatten := by
  rw [places, List.map_map, ← map_fst_centredPlaces]
  rfl

theorem mem_centredPlaces {g : Graph} {id : String} {depth i : Nat} {ids : List String}
    (h : g.StandsAt id depth ids i) :
    (id, ⟨column ids.length i, row depth⟩) ∈ centredPlaces g := by
  refine List.mem_flatMap.2 ⟨(ids, depth), List.mem_zipIdx_iff_getElem?.2 h.1, ?_⟩
  exact List.mem_map.2 ⟨(id, i), List.mem_zipIdx_iff_getElem?.2 h.2, rfl⟩

/-- A node is placed by its row and its number in it. -/
theorem lookup_places {g : Graph} {id : String} {depth i : Nat} {ids : List String}
    (h : g.StandsAt id depth ids i) :
    (places g).lookup id = some (placeAt g depth ids.length i) := by
  refine Text.lookup_of_mem (p := (id, placeAt g depth ids.length i)) ?_ ?_
  · rw [map_fst_places]
    exact g.nodup_flatten_layers
  · exact List.mem_map.2 ⟨_, mem_centredPlaces h, rfl⟩

theorem depth_eq_of_standsAt {g : Graph} {id : String} {depth depth' i j : Nat}
    {ids ids' : List String} (hi : g.StandsAt id depth ids i) (hj : g.StandsAt id depth' ids' j) :
    depth = depth' := by
  have hplace := Option.some.inj ((lookup_places hi).symm.trans (lookup_places hj))
  have hy : row depth = row depth' := congrArg Place.y hplace
  rw [row, row, rowPitch] at hy
  omega

/-- The picture moves far enough. -/
theorem add_shift_pos {places : List (String × Place)} {p : String × Place} (h : p ∈ places) :
    0 < p.2.x + shift places := by
  have hx : p.2.x ∈ places.map (·.2.x) := List.mem_map_of_mem h
  rw [shift]
  cases hleast : (places.map (·.2.x)).min? with
  | none => rw [List.min?_eq_none_iff.1 hleast] at hx; exact absurd hx List.not_mem_nil
  | some least =>
      have hle : least ≤ p.2.x := (List.min?_eq_some_iff.1 hleast).2 _ hx
      dsimp only [margin]
      split <;> omega

theorem placeAt_pos {g : Graph} {id : String} {depth i : Nat} {ids : List String}
    (h : g.StandsAt id depth ids i) :
    0 < (placeAt g depth ids.length i).x ∧ 0 < (placeAt g depth ids.length i).y := by
  have hy : (placeAt g depth ids.length i).y = margin + rowPitch * depth := rfl
  refine ⟨add_shift_pos (mem_centredPlaces h), ?_⟩
  rw [hy, margin, rowPitch]
  omega

/-- A node without a usable box gets its place. -/
theorem settleNode_of_standsAt {g : Graph} {n : Node} (hn : n.isPlaced = false)
    {depth i : Nat} {ids : List String} (h : g.StandsAt n.id depth ids i) :
    settleNode (places g) n =
      { n with geometry := some (box (placeAt g depth ids.length i)) } := by
  rw [settleNode, hn, lookup_places h]
  rfl

theorem settleNode_of_isPlaced {n : Node} (h : n.isPlaced = true)
    (places : List (String × Place)) : settleNode places n = n := by
  rw [settleNode, if_pos h]

end Layout

/-! ## What is filled in -/

/-- What a node may become: one with a usable box stays as it is, and one without gets such a box
and keeps everything else. -/
structure Node.IsFilledBy (n filled : Node) : Prop where
  isPlaced : filled.isPlaced = true
  eq_of_isPlaced : n.isPlaced = true → filled = n
  exists_box : ∃ box, filled = { n with geometry := some box }

/-- What a graph may become: its nodes get the boxes they lack, and nothing else changes. -/
structure Graph.IsFilledBy (g filled : Graph) : Prop where
  nodes : List.Forall₂ Node.IsFilledBy g.nodes filled.nodes
  edges : filled.edges = g.edges
  subgraphs : filled.subgraphs = g.subgraphs
  settled : filled.settled = g.settled

theorem Node.exists_geometry_of_isPlaced {n : Node} (h : n.isPlaced = true) :
    ∃ box, n.geometry = some box := by
  rw [isPlaced] at h
  cases hbox : n.geometry with
  | none =>
      rw [hbox] at h
      exact absurd h (by decide)
  | some box => exact ⟨box, rfl⟩

theorem Layout.isFilledBy_settleNode {g : Graph} {n : Node} (hn : n ∈ g.nodes) :
    n.IsFilledBy (settleNode (places g) n) := by
  by_cases hplaced : n.isPlaced = true
  · rw [settleNode_of_isPlaced hplaced]
    obtain ⟨box, hbox⟩ := Node.exists_geometry_of_isPlaced hplaced
    exact ⟨hplaced, fun _ => rfl, box, by rw [← hbox]⟩
  · obtain ⟨depth, ids, i, hi⟩ := Graph.exists_standsAt (List.mem_map_of_mem (f := Node.id) hn)
    rw [settleNode_of_standsAt (Bool.not_eq_true _ ▸ hplaced) hi]
    exact ⟨rfl, fun h => absurd h hplaced, _, rfl⟩

namespace Graph

theorem isFilledBy_layout (g : Graph) : g.IsFilledBy g.layout where
  nodes := by
    rw [nodes_layout, List.forall₂_map_right_iff, List.forall₂_same]
    exact fun n hn => Layout.isFilledBy_settleNode hn
  edges := rfl
  subgraphs := rfl
  settled := rfl

theorem isPlaced_of_mem_layout {g : Graph} {n : Node} (h : n ∈ g.layout.nodes) :
    n.isPlaced = true := by
  rw [nodes_layout] at h
  obtain ⟨m, hm, rfl⟩ := List.mem_map.1 h
  exact (Layout.isFilledBy_settleNode hm).isPlaced

/-- A graph that lacks nothing stays as it is. -/
theorem layout_eq_self {g : Graph} (h : ∀ n ∈ g.nodes, n.isPlaced = true) : g.layout = g := by
  have hnodes : g.layout.nodes = g.nodes := by
    rw [nodes_layout, List.map_congr_left fun n hn => Layout.settleNode_of_isPlaced (h n hn) _,
      List.map_id']
  have hlayout : g.layout = ⟨g.layout.nodes, g.edges, g.subgraphs, g.settled, g.layout.nodup⟩ := rfl
  rw [hlayout]
  simp only [hnodes]

theorem layout_layout (g : Graph) : g.layout.layout = g.layout :=
  layout_eq_self fun _ hn => isPlaced_of_mem_layout hn

end Graph

end DiagramBridge
