import DiagramBridge.Proofs.Diagram.Invariant
import DiagramBridge.Proofs.Text.Blank
import Mathlib.Logic.Relation

/-!
# How readers of Mermaid build a graph

A reader mentions nodes, links two nodes that it has mentioned, adds members to classes and records
subgraphs. `Step M` is such a step with mentions, links and members out of a material `M`, and what
every step keeps holds of all that is read. So it is enough to know the material of a reader: names
are words without white space, labels of edges are trimmed, and all texts are cut out of lines.
-/

namespace DiagramBridge

open Text

/-! ## Materials -/

/-- What may be put into a graph. -/
structure Material where
  mention : Mention → Prop
  link : Link → Prop
  member : String → Prop

namespace Graph

/-- One step of a reader with a material. -/
inductive Step (M : Material) : Graph → Graph → Prop where
  | mention (g : Graph) {m : Mention} (h : M.mention m) : Step M g (g.mention m)
  | link {g : Graph} {l : Link} (h : M.link l) (source : l.source ∈ g.nodeIds)
      (target : l.target ∈ g.nodeIds) : Step M g (g.link l)
  | addMember (g : Graph) (id : String) {member : String} (h : M.member member) :
      Step M g (g.addMember id member)
  | addSubgraph (g : Graph) (s : Subgraph) : Step M g (g.addSubgraph s)
  | enlist (g : Graph) (place : Nat) (id : String) : Step M g (g.enlist place id)

/-- Any number of steps. -/
abbrev Steps (M : Material) : Graph → Graph → Prop :=
  Relation.ReflTransGen (Step M)

variable {M : Material} {g g' : Graph}

theorem Step.mem_nodeIds (h : Step M g g') {id : String} (hid : id ∈ g.nodeIds) :
    id ∈ g'.nodeIds := by
  cases h with
  | mention m => exact mem_nodeIds_mention.2 (.inl hid)
  | link l => exact hid
  | addMember => rwa [nodeIds_addMember]
  | addSubgraph => exact hid
  | enlist => exact hid

/-- A node that was mentioned is never lost. -/
theorem Steps.mem_nodeIds (h : Steps M g g') {id : String} (hid : id ∈ g.nodeIds) :
    id ∈ g'.nodeIds := by
  induction h with
  | refl => exact hid
  | tail _ hstep ih => exact hstep.mem_nodeIds ih

/-- What is built has the properties that the material has, if later labels and members keep them. -/
theorem Steps.consists {P : Node → Prop} {Q : Edge → Prop} (h : Steps M .empty g)
    (hmention : ∀ m, M.mention m → P m.toNode ∧
      ∀ n label, P n → m.label = some label → P (relabelled m label n))
    (hlink : ∀ (g : Graph) l, M.link l → Q (g.edgeOf l))
    (hmember : ∀ n s, M.member s → P n → P { n with members := n.members ++ [s] }) :
    g.Consists P Q := by
  induction h with
  | refl => exact consists_empty
  | tail _ hstep ih =>
      cases hstep with
      | mention hm => exact ih.mention (hmention _ hm).1 (hmention _ hm).2
      | link hl hsource htarget => exact ih.link (hlink _ _ hl) hsource htarget
      | addMember id hs => exact ih.addMember id _ fun n => hmember n _ hs
      | addSubgraph s => exact ih.addSubgraph s
      | enlist place id => exact ih.enlist place id

/-! ## Ids of edges -/

/-- The id of the edge that is the `i`-th to be added. -/
def numberedEdgeId (i : Nat) : String :=
  "edge_" ++ decimalString i

/-- Edges have the numbers of their places for ids. -/
def HasNumberedEdges (g : Graph) : Prop :=
  g.edges.map Edge.id = (List.range g.edges.length).map numberedEdgeId

/-- A link without an id is given the number of its edge. -/
theorem HasNumberedEdges.link (h : g.HasNumberedEdges) {l : Link} (hl : l.id = "") :
    (g.link l).HasNumberedEdges := by
  have hid : (g.edgeOf l).id = numberedEdgeId g.edges.length := if_pos hl
  rw [HasNumberedEdges, edges_link, List.map_append, List.map_singleton, hid, h, List.length_append,
    List.length_singleton, List.range_succ, List.map_append, List.map_singleton]

theorem Steps.hasNumberedEdges (h : Steps M .empty g) (hlink : ∀ l, M.link l → l.id = "") :
    g.HasNumberedEdges := by
  induction h with
  | refl => rfl
  | tail _ hstep ih =>
      cases hstep with
      | mention hm => rwa [HasNumberedEdges, edges_mention]
      | link hl _ _ => exact ih.link (hlink _ hl)
      | addMember id hs => exact ih
      | addSubgraph s => exact ih
      | enlist place id => exact ih

end Graph

/-! ## Characters -/

variable {p : Char → Prop}

/-- The texts of a node are made of certain characters. -/
structure Node.IsMadeOf (p : Char → Prop) (n : Node) : Prop where
  id : ∀ c ∈ n.id.toList, p c
  label : ∀ c ∈ n.label.toList, p c
  members : ∀ m ∈ n.members, ∀ c ∈ m.toList, p c

/-- The texts of an edge are made of certain characters. -/
structure Edge.IsMadeOf (p : Char → Prop) (e : Edge) : Prop where
  id : ∀ c ∈ e.id.toList, p c
  label : ∀ c ∈ e.label.toList, p c

/-- The texts of a graph are made of certain characters. -/
structure Graph.IsMadeOf (p : Char → Prop) (g : Graph) : Prop where
  nodes : ∀ n ∈ g.nodes, n.IsMadeOf p
  edges : ∀ e ∈ g.edges, e.IsMadeOf p

theorem Graph.IsMadeOf.mono {g : Graph} {q : Char → Prop} (h : g.IsMadeOf p)
    (hpq : ∀ c, p c → q c) : g.IsMadeOf q where
  nodes n hn :=
    { id := fun c hc => hpq c ((h.nodes n hn).id c hc)
      label := fun c hc => hpq c ((h.nodes n hn).label c hc)
      members := fun m hm c hc => hpq c ((h.nodes n hn).members m hm c hc) }
  edges e he :=
    { id := fun c hc => hpq c ((h.edges e he).id c hc)
      label := fun c hc => hpq c ((h.edges e he).label c hc) }

/-! ## Materials of texts -/

/-- The kind of the nodes in texts of a type. -/
def DiagramType.nodeKind : DiagramType → NodeKind
  | classDiagram => .classLike
  | flowchart | sequence => .node

theorem DiagramType.nodeKind_eq_classLike_iff {type : DiagramType} :
    type.nodeKind = .classLike ↔ type = .classDiagram := by
  cases type <;> decide

/-- A mention as a text of a type can make it. -/
structure IsReadMention (type : DiagramType) (p : Char → Prop) (m : Mention) : Prop where
  name : IsWordRun m.id.toList
  kind : m.kind = type.nodeKind
  members : m.members = []
  geometry : m.geometry = none
  idChars : ∀ c ∈ m.id.toList, p c
  labelChars : ∀ label ∈ m.label, ∀ c ∈ label.toList, p c

/-- A name and a label that are cut out of a text make up a mention. -/
theorem isReadMention_ofList {type : DiagramType} {p : Char → Prop} {id : List Char}
    (hid : IsWordRun id) (hchars : ∀ c ∈ id, p c) {label : Option (List Char)}
    (hlabel : ∀ l ∈ label, ∀ c ∈ l, p c) (shape : Option Shape) :
    IsReadMention type p
      { id := String.ofList id, label := label.map String.ofList, shape, kind := type.nodeKind } := by
  refine ⟨?_, rfl, rfl, rfl, ?_, fun l hl => ?_⟩
  · rwa [String.toList_ofList]
  · rwa [String.toList_ofList]
  · obtain ⟨l', hl', rfl⟩ := Option.map_eq_some_iff.1 hl
    rw [String.toList_ofList]
    exact hlabel l' hl'

/-- A link as a text can make it. -/
structure IsReadLink (p : Char → Prop) (l : Link) : Prop where
  id : l.id = ""
  label : IsTrimmed l.label.toList
  labelChars : ∀ c ∈ l.label.toList, p c

/-- A member as a text of a type can state it. -/
structure IsReadMember (type : DiagramType) (p : Char → Prop) (s : String) : Prop where
  type : type = .classDiagram
  chars : ∀ c ∈ s.toList, p c

/-- A material that texts of a type with certain characters can be made of. -/
structure Material.IsReadFrom (M : Material) (type : DiagramType) (p : Char → Prop) : Prop where
  mention : ∀ m, M.mention m → IsReadMention type p m
  link : ∀ l, M.link l → IsReadLink p l
  member : ∀ s, M.member s → IsReadMember type p s

/-- A node that can be read from a text of a type. -/
structure IsReadNode (type : DiagramType) (n : Node) : Prop where
  name : IsWordRun n.id.toList
  kind : n.kind = type.nodeKind
  members : n.members ≠ [] → type = .classDiagram
  geometry : n.geometry = none

/-- An edge that can be read from a text. -/
structure IsReadEdge (e : Edge) : Prop where
  id : ∀ c ∈ e.id.toList, isWord c = true
  label : IsTrimmed e.label.toList

/-- A graph that can be read from a text of a type. -/
structure Graph.IsReadAs (type : DiagramType) (g : Graph) : Prop where
  consists : g.Consists (IsReadNode type) IsReadEdge
  numbered : g.HasNumberedEdges

section

variable {type : DiagramType} {M : Material} {g : Graph} (hM : M.IsReadFrom type p)
include hM

theorem Graph.Steps.isReadAs (h : Steps M .empty g) : g.IsReadAs type where
  consists := by
    refine h.consists (fun m hm => ?_) (fun g l hl => ⟨?_, (hM.link l hl).label⟩)
      fun n s hs hn => ⟨hn.name, hn.kind, fun _ => (hM.member s hs).type, hn.geometry⟩
    · have hread := hM.mention m hm
      refine ⟨⟨hread.name, hread.kind, fun hne => absurd hread.members hne, hread.geometry⟩, ?_⟩
      exact fun n label hn _ => ⟨hn.name, hn.kind, hn.members, hn.geometry⟩
    · rw [edgeOf, if_pos (hM.link l hl).id]
      exact isWord_freshEdgeId g
  numbered := h.hasNumberedEdges fun l hl => (hM.link l hl).id

/-- Ids that are given to edges are words, and all other texts come from the material. -/
theorem Graph.Steps.isMadeOf (hword : ∀ c, isWord c = true → p c) (h : Steps M .empty g) :
    g.IsMadeOf p := by
  have hconsists : g.Consists (Node.IsMadeOf p) (Edge.IsMadeOf p) := by
    refine h.consists (fun m hm => ?_) (fun g l hl => ⟨?_, (hM.link l hl).labelChars⟩)
      fun n s hs hn => ⟨hn.id, hn.label, fun s' hs' => ?_⟩
    · have hread := hM.mention m hm
      refine ⟨⟨hread.idChars, ?_, by simp [Mention.toNode, hread.members]⟩, ?_⟩
      · rw [Mention.toNode]
        cases hlabel : m.label with
        | none => exact hread.idChars
        | some label => exact hread.labelChars label hlabel
      · exact fun n label hn hlabel => ⟨hn.id, hread.labelChars label hlabel, hn.members⟩
    · rw [edgeOf, if_pos (hM.link l hl).id]
      exact fun c hc => hword c (isWord_freshEdgeId g c hc)
    · rcases List.mem_append.1 hs' with hs' | hs'
      · exact hn.members s' hs'
      · rw [List.mem_singleton.1 hs']
        exact (hM.member s hs).chars
  exact ⟨hconsists.nodes, hconsists.edges⟩

end

end DiagramBridge
