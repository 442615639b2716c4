import DiagramBridge.Diagram.Storage
import DiagramBridge.Proofs.Diagram.Graph
import DiagramBridge.Proofs.Json.RoundTrip

/-!
# Stored graphs return

Everything that is written of a graph is read again: each field under the name that it was written
with, words out of their vocabularies, and what is absent as absent. Nodes have distinct ids, so none
takes the place of another one. What is not written is which labels were settled, so a graph that
returns has none.

The text of a value that can be read is no beginning of the text of another one. So where the texts
of two values agree, they agree part by part, and the text of a graph tells whether its first node
has a box, whatever numbers the boxes have.
-/

namespace DiagramBridge

/-! ## Words -/

theorem Shape.lookup_name (s : Shape) : Shape.lookup s.name = .ok s := by
  cases s <;> rfl

theorem NodeKind.lookup_name (k : NodeKind) : NodeKind.lookup k.name = .ok k := by
  cases k <;> rfl

theorem LineStyle.lookup_name (s : LineStyle) : LineStyle.lookup s.name = .ok s := by
  cases s <;> rfl

theorem Relation.lookup_name (r : Relation) : Relation.lookup r.name = .ok r := by
  cases r <;> rfl

namespace Storage

/-! ## Fields -/

theorem mapM_map {α ε : Type} {read : Json → Except ε α} {write : α → Json} (l : List α)
    (h : ∀ a, read (write a) = .ok a) : (l.map write).mapM read = .ok l := by
  induction l with
  | nil => rfl
  | cons a l ih =>
      rw [List.map_cons, List.mapM_cons, h a, ih]
      rfl

section

variable {j : Json} {name : String}

theorem text_of_field {s : String} (h : j.field? name = some (.str s)) : text j name = .ok s := by
  rw [text, text?, h]
  rfl

theorem textOr_of_field {s : String} (h : j.field? name = some (.str s)) (default : String) :
    textOr default j name = .ok s := by
  rw [textOr, text?, h]
  rfl

theorem items_of_field {l : List Json} (h : j.field? name = some (.arr l)) :
    items j name = .ok l := by
  rw [items, h]

theorem texts_of_field {ts : List String} (h : j.field? name = some (textsJson ts)) :
    texts j name = .ok ts := by
  rw [texts, items_of_field h]
  exact mapM_map ts fun _ => rfl

theorem boolOr_of_field {b : Bool} (h : j.field? name = some (.bool b)) (default : Bool) :
    boolOr default j name = .ok b := by
  rw [boolOr, h]

theorem ofJson?_toJson (c : Coord) : Coord.ofJson? c.toJson = some c := by
  cases c <;> rfl

theorem geometry_toJson (g : Geometry) : geometry g.toJson = .ok g := by
  have hx : g.toJson.field? "x" = some g.x.toJson := rfl
  have hy : g.toJson.field? "y" = some g.y.toJson := rfl
  have hwidth : g.toJson.field? "width" = some g.width.toJson := rfl
  have hheight : g.toJson.field? "height" = some g.height.toJson := rfl
  simp only [geometry, hx, hy, hwidth, hheight, Option.bind_some, ofJson?_toJson,
    Option.bind_eq_bind]
  rfl

/-- A box is no empty object, and an absent one is null. -/
theorem geometry?_of_field {g : Option Geometry}
    (h : j.field? name = some ((g.map Geometry.toJson).getD .null)) :
    geometry? j name = .ok g := by
  rw [ geometry?, h]
  cases g with
  | none => rfl
  | some g =>
      have htruthy : g.toJson.isTruthy = true := rfl
      simp only [Option.map_some, Option.getD_some, htruthy, if_true, geometry_toJson]
      rfl

/-- No relation has the empty word for a name, and an absent one is null. -/
theorem relation?_of_field {r : Option Relation}
    (h : j.field? name = some ((r.map fun r => Json.str r.name).getD .null)) :
    relation? j name = .ok r := by
  rw [relation?, h]
  cases r with
  | none => rfl
  | some r =>
      have htruthy : (Json.str r.name).isTruthy = true := by cases r <;> rfl
      simp only [Option.map_some, Option.getD_some, htruthy, text_of_field h, Bool.not_true,
        Bool.false_eq_true, if_false]
      cases r <;> rfl

end

/-! ## Records -/

theorem node_toJson (n : Node) : node n.toJson = .ok n := by
  have hid : text n.toJson "id" = .ok n.id := text_of_field rfl
  have hlabel : textOr n.id n.toJson "label" = .ok n.label := textOr_of_field rfl _
  have hshape : textOr Shape.rectangle.name n.toJson "shape" = .ok n.shape.name :=
    textOr_of_field rfl _
  have hkind : textOr NodeKind.node.name n.toJson "kind" = .ok n.kind.name := textOr_of_field rfl _
  have hmembers : texts n.toJson "members" = .ok n.members := texts_of_field rfl
  have hgeometry : geometry? n.toJson "geometry" = .ok n.geometry := geometry?_of_field rfl
  have hstyle : textOr "" n.toJson "style" = .ok n.style := textOr_of_field rfl _
  simp only [node, hid, hlabel, hshape, hkind, hmembers, hgeometry, hstyle, bind, Except.bind,
    Shape.lookup_name, NodeKind.lookup_name, Except.mapError]
  rfl

theorem edge_toJson (e : Edge) : edge e.toJson = .ok e := by
  have hid : text e.toJson "id" = .ok e.id := text_of_field rfl
  have hsource : text e.toJson "source" = .ok e.source := text_of_field rfl
  have htarget : text e.toJson "target" = .ok e.target := text_of_field rfl
  have hlabel : textOr "" e.toJson "label" = .ok e.label := textOr_of_field rfl _
  have hlineStyle : textOr LineStyle.plain.name e.toJson "style_kind" = .ok e.lineStyle.name :=
    textOr_of_field rfl _
  have hrelation : relation? e.toJson "relation_kind" = .ok e.relation := relation?_of_field rfl
  have harrowEnd : boolOr true e.toJson "arrow_end" = .ok e.arrowEnd := boolOr_of_field rfl _
  have hstyle : textOr "" e.toJson "style" = .ok e.style := textOr_of_field rfl _
  simp only [edge, hid, hsource, htarget, hlabel, hlineStyle, hrelation, harrowEnd, hstyle, bind,
    Except.bind, LineStyle.lookup_name, Except.mapError]
  rfl

theorem subgraph_toJson (s : Subgraph) : subgraph s.toJson = .ok s := by
  have hid : text s.toJson "id" = .ok s.id := text_of_field rfl
  have hlabel : textOr s.id s.toJson "label" = .ok s.label := textOr_of_field rfl _
  have hnodes : texts s.toJson "nodes" = .ok s.nodes := texts_of_field rfl
  simp only [subgraph, hid, hlabel, hnodes, bind, Except.bind]
  rfl

end Storage

namespace Graph

open Storage Json

/-! ## Graphs -/

/-- A stored graph returns with its nodes, edges and subgraphs. -/
theorem ofJson_toJson (g : Graph) : ofJson g.toJson = .ok { g with settled := [] } := by
  have hnodes : items g.toJson "nodes" = .ok (g.nodes.map Node.toJson) := items_of_field rfl
  have hedges : items g.toJson "edges" = .ok (g.edges.map Edge.toJson) := items_of_field rfl
  have hsubgraphs : items g.toJson "subgraphs" = .ok (g.subgraphs.map Subgraph.toJson) :=
    items_of_field rfl
  simp only [ofJson, hnodes, hedges, hsubgraphs, bind, Except.bind, mapM_map _ node_toJson,
    mapM_map _ edge_toJson, mapM_map _ subgraph_toJson, foldl_put (g := empty) g.nodup,
    foldl_addEdge, foldl_addSubgraph]
  rfl

/-! ## Texts -/

/-- The numbers in a graph. -/
def coordinates (g : Graph) : List Coord :=
  g.nodes.flatMap fun n => (n.geometry.map fun b => [b.x, b.y, b.width, b.height]).getD []

theorem isReadable_textsJson (ts : List String) : (textsJson ts).IsReadable := by
  refine .arr fun v hv => ?_
  obtain ⟨t, -, rfl⟩ := List.mem_map.1 hv
  exact .str t

theorem isReadable_coord {c : Coord} (h : ReadsBack c.toJson) : c.toJson.IsReadable := by
  cases c with
  | whole n => exact .int h
  | real x => exact .real h

theorem isReadable_node {n : Node}
    (h : ∀ b ∈ n.geometry, ∀ c ∈ [b.x, b.y, b.width, b.height], ReadsBack c.toJson) :
    n.toJson.IsReadable := by
  have hgeometry : ((n.geometry.map Geometry.toJson).getD .null).IsReadable := by
    cases hbox : n.geometry with
    | none => exact .null
    | some b =>
        have hcoord := h b hbox
        simp only [List.forall_mem_cons] at hcoord
        obtain ⟨hx, hy, hwidth, hheight, -⟩ := hcoord
        refine .obj (by simp) ?_
        simp only [List.forall_mem_cons]
        exact ⟨isReadable_coord hx, isReadable_coord hy, isReadable_coord hwidth,
          isReadable_coord hheight, by simp⟩
  refine .obj (by simp) ?_
  simp only [List.forall_mem_cons]
  exact ⟨.str _, .str _, .str _, .str _, isReadable_textsJson _, hgeometry, .str _, by simp⟩

theorem isReadable_edge (e : Edge) : e.toJson.IsReadable := by
  have hrelation : ((e.relation.map fun r => Json.str r.name).getD .null).IsReadable := by
    cases e.relation with
    | none => exact .null
    | some r => exact .str _
  refine .obj (by simp) ?_
  simp only [List.forall_mem_cons]
  exact ⟨.str _, .str _, .str _, .str _, .str _, hrelation, .bool _, .str _, by simp⟩

theorem isReadable_subgraph (s : Subgraph) : s.toJson.IsReadable := by
  refine .obj (by simp) ?_
  simp only [List.forall_mem_cons]
  exact ⟨.str _, .str _, isReadable_textsJson _, by simp⟩

/-- Only numbers can keep a graph from being read back. -/
theorem isReadable_toJson {g : Graph} (h : ∀ c ∈ g.coordinates, ReadsBack c.toJson) :
    g.toJson.IsReadable := by
  refine .obj (by simp) ?_
  simp only [List.forall_mem_cons]
  refine ⟨.str _, .arr fun v hv => ?_, .arr fun v hv => ?_, .arr fun v hv => ?_, by simp⟩
  · obtain ⟨n, hn, rfl⟩ := List.mem_map.1 hv
    refine isReadable_node fun b hb c hc => h c (List.mem_flatMap.2 ⟨n, hn, ?_⟩)
    rwa [Option.mem_def.1 hb]
  · obtain ⟨e, -, rfl⟩ := List.mem_map.1 hv
    exact isReadable_edge e
  · obtain ⟨s, -, rfl⟩ := List.mem_map.1 hv
    exact isReadable_subgraph s

theorem load_store {g : Graph} (h : ∀ c ∈ g.coordinates, ReadsBack c.toJson) :
    load g.store = .ok { g with settled := [] } := by
  rw [load, store, read?, readWith?_indented _ (isReadable_toJson h)]
  exact ofJson_toJson g

/-- **Round trip.** A graph returns from JSON with its nodes, edges and subgraphs in order, and it is
written in JSON as before. From a text it returns if its numbers do, one by one. -/
theorem returns_from_json (g : Graph) :
    ∃ back, ofJson g.toJson = .ok back ∧ back.nodes = g.nodes ∧ back.edges = g.edges ∧
      back.subgraphs = g.subgraphs ∧ back.toJson = g.toJson ∧
        ((∀ c ∈ g.coordinates, ReadsBack c.toJson) → load g.store = .ok back) :=
  ⟨{ g with settled := [] }, ofJson_toJson g, rfl, rfl, rfl, rfl, load_store⟩

/-- A class with a box, a node without one, an edge without an arrow and a group. -/
def storedGraph : Graph where
  nodes := [{ id := "A", label := "\"Größe\"\n𝄞", kind := .classLike, members := ["+x", ""]
              geometry := some ⟨.whole (-40), .real (.finite false 1 (-1)), .whole 120, .whole 60⟩ },
            { id := "B", label := "B", shape := .cylinder, style := "fill" }]
  edges := [{ id := "e", source := "A", target := "B", arrowEnd := false, lineStyle := .dashed }]
  subgraphs := [{ id := "S", label := "", nodes := ["A"] }]
  settled := ["A"]
  nodup := by decide

theorem returns_from_json_storedGraph :
    ∃ back, load storedGraph.store = .ok back ∧ back.nodes = storedGraph.nodes ∧
      back.edges = storedGraph.edges ∧ back.subgraphs = storedGraph.subgraphs := by
  obtain ⟨back, -, hnodes, hedges, hsubgraphs, -, hload⟩ := returns_from_json storedGraph
  refine ⟨back, hload fun c hc => ?_, hnodes, hedges, hsubgraphs⟩
  have hmem : c ∈ [.whole (-40), .real (.finite false 1 (-1)), .whole 120, .whole 60] := hc
  simp only [List.mem_cons, List.not_mem_nil, or_false] at hmem
  rcases hmem with rfl | rfl | rfl | rfl
  · exact readsBack_int (by decide)
  · rfl
  · exact readsBack_int (by decide)
  · exact readsBack_int (by decide)

end Graph

/-! ## Texts that agree -/

namespace Json

open Text

/-- Two texts that agree and begin with readable values begin with the same value. -/
theorem IsReadable.append_inj {v w : Json} (hv : v.IsReadable) (hw : w.IsReadable) {level : Nat}
    {s t : List Char} (hs : Stops isNumberPart s) (ht : Stops isNumberPart t)
    (h : indentedText level v ++ s = indentedText level w ++ t) : v = w ∧ s = t := by
  let half : Nat → Char := fun _ => '\uFFFD'
  have hv' := hv.isRead half level
    ((indentedText level v).length + (indentedText level w).length) s (Nat.le_add_right _ _) hs
  rw [h, hw.isRead half level _ t (Nat.le_add_left _ _) ht] at hv'
  obtain ⟨rfl, rfl⟩ := Prod.mk.inj (Option.some.inj hv')
  exact ⟨rfl, rfl⟩

theorem indentedFields_cons_cons (level : Nat) (k : String) (v : Json) (f : String × Json)
    (fs : List (String × Json)) : indentedFields level ((k, v) :: f :: fs) =
      newline level ++ strText k ++ ": ".toList ++
        (indentedText level v ++ ',' :: indentedFields level (f :: fs)) := by
  rw [indentedFields, List.append_assoc _ (indentedText level v)]
  simp

/-- Where fields with the same key agree in a text, their values are the same and the fields behind
them agree. -/
theorem indentedFields_inj {level : Nat} {k : String} {v w : Json} (hv : v.IsReadable)
    (hw : w.IsReadable) {f g : String × Json} {fs gs : List (String × Json)} {s t : List Char}
    (h : indentedFields level ((k, v) :: f :: fs) ++ s =
      indentedFields level ((k, w) :: g :: gs) ++ t) :
    v = w ∧ indentedFields level (f :: fs) ++ s = indentedFields level (g :: gs) ++ t := by
  have hcomma (r : List Char) : Stops isNumberPart (',' :: r) := stops_cons_iff.2 (by decide)
  simp only [indentedFields_cons_cons, List.append_assoc, List.append_cancel_left_eq,
    List.cons_append] at h
  obtain ⟨rfl, htail⟩ := hv.append_inj hw (hcomma _) (hcomma _) h
  exact ⟨rfl, (List.cons.inj htail).2⟩

/-- The text of some items begins with that of the first one. -/
theorem indentedItems_cons (level : Nat) (v : Json) (vs : List Json) :
    ∃ rest, indentedItems level (v :: vs) = newline level ++ (indentedText level v ++ rest) := by
  cases vs with
  | nil => exact ⟨[], by simp [indentedItems]⟩
  | cons w ws => exact ⟨',' :: indentedItems level (w :: ws), by simp [indentedItems]⟩

end Json

open Json

/-- The text of a node tells whether the node has a box. -/
theorem Node.isSome_geometry_of_text {n m : Node} {level : Nat} {s t : List Char}
    (h : indentedText level n.toJson ++ s = indentedText level m.toJson ++ t) :
    n.geometry.isSome = m.geometry.isSome := by
  simp only [Node.toJson, indentedText, List.cons_append, List.append_assoc, List.cons.injEq,
    true_and] at h
  obtain ⟨-, h⟩ := indentedFields_inj (.str _) (.str _) h
  obtain ⟨-, h⟩ := indentedFields_inj (.str _) (.str _) h
  obtain ⟨-, h⟩ := indentedFields_inj (.str _) (.str _) h
  obtain ⟨-, h⟩ := indentedFields_inj (.str _) (.str _) h
  obtain ⟨-, h⟩ := indentedFields_inj (Graph.isReadable_textsJson _) (Graph.isReadable_textsJson _) h
  simp only [indentedFields_cons_cons, List.append_assoc, List.append_cancel_left_eq] at h
  -- A box begins with a brace, and the word for its absence does not.
  cases hn : n.geometry with
  | none =>
    cases hm : m.geometry with
    | none => rfl
    | some b =>
      rw [hn, hm] at h
      exact absurd (List.cons.inj h).1 (by decide)
  | some b =>
    cases hm : m.geometry with
    | some b => rfl
    | none =>
      rw [hn, hm] at h
      exact absurd (List.cons.inj h).1 (by decide)

/-- Graphs that are stored alike both have a box for their first node, or neither has. -/
theorem Graph.isSome_geometry_of_store {g g' : Graph} (h : g.store = g'.store) {n m : Node}
    (hn : g.nodes.head? = some n) (hm : g'.nodes.head? = some m) :
    n.geometry.isSome = m.geometry.isSome := by
  obtain ⟨ns, hns⟩ := List.head?_eq_some_iff.1 hn
  obtain ⟨ms, hms⟩ := List.head?_eq_some_iff.1 hm
  have htext : indentedText 0 g.toJson = indentedText 0 g'.toJson := String.ofList_injective h
  obtain ⟨rest, hrest⟩ := indentedItems_cons 2 n.toJson (ns.map Node.toJson)
  obtain ⟨rest', hrest'⟩ := indentedItems_cons 2 m.toJson (ms.map Node.toJson)
  simp only [toJson, hns, hms, indentedText, List.cons_append, List.append_assoc, List.cons.injEq,
    true_and] at htext
  obtain ⟨-, hnodes⟩ := indentedFields_inj (.str _) (.str _) htext
  simp only [indentedFields_cons_cons, List.map_cons, indentedText, List.append_assoc,
    List.append_cancel_left_eq, List.cons_append, List.cons.injEq, true_and, Nat.reduceAdd, hrest,
    hrest'] at hnodes
  exact Node.isSome_geometry_of_text hnodes

end DiagramBridge
