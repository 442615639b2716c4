import DiagramBridge.Diagram.Geometry
import DiagramBridge.Diagram.Vocabulary

/-!
# Diagram graphs

A graph holds nodes, edges and subgraphs, each in the order in which they came. Node ids are
pairwise distinct, and the type says so. Edges name their ends by id and are kept whether or not
the ends exist; an edge is valid when both do.

A node is added by mentioning it. The first mention creates it; the first mention that carries a
label settles its label and shape, and later labels change nothing. The graph remembers which ids
are settled.
-/

namespace DiagramBridge

/-- A node of a diagram. -/
structure Node where
  id : String
  label : String
  shape : Shape := .rectangle
  kind : NodeKind := .node
  members : List String := []
  geometry : Option Geometry := none
  style : String := ""
  deriving DecidableEq

/-- A directed edge. -/
structure Edge where
  id : String
  source : String
  target : String
  label : String := ""
  lineStyle : LineStyle := .plain
  relation : Option Relation := none
  arrowEnd : Bool := true
  style : String := ""
  deriving DecidableEq

/-- A named group of nodes. -/
structure Subgraph where
  id : String
  label : String
  nodes : List String := []
  deriving DecidableEq

/-- A node as a document mentions it. Without a label it shows its id; without a shape it is a
rectangle. -/
structure Mention where
  id : String
  label : Option String := none
  shape : Option Shape := none
  kind : NodeKind := .node
  members : List String := []
  geometry : Option Geometry := none
  style : String := ""

/-- The node that a first mention creates. -/
def Mention.toNode (m : Mention) : Node where
  id := m.id
  label := m.label.getD m.id
  shape := m.shape.getD .rectangle
  kind := m.kind
  members := m.members
  geometry := m.geometry
  style := m.style

/-- An edge as a document states it. The graph supplies an id where there is none. -/
structure Link where
  source : String
  target : String
  label : String := ""
  id : String := ""
  lineStyle : LineStyle := .plain
  relation : Option Relation := none
  arrowEnd : Bool := true
  style : String := ""

/-- Nodes with distinct ids, edges and subgraphs, in order. `settled` lists the ids of the nodes
whose label was given explicitly. -/
structure Graph where
  nodes : List Node
  edges : List Edge
  subgraphs : List Subgraph
  settled : List String
  nodup : (nodes.map Node.id).Nodup

namespace Graph

/-- The graph with nothing in it. -/
def empty : Graph where
  nodes := []
  edges := []
  subgraphs := []
  settled := []
  nodup := List.nodup_nil

/-- The ids of the nodes, in order. -/
def nodeIds (g : Graph) : List String :=
  g.nodes.map Node.id

def hasNode (g : Graph) (id : String) : Bool :=
  g.nodes.any (·.id == id)

def node? (g : Graph) (id : String) : Option Node :=
  g.nodes.find? (·.id == id)

/-- The edges whose two ends are nodes of the graph, in order. -/
def validEdges (g : Graph) : List Edge :=
  g.edges.filter fun e => g.hasNode e.source && g.hasNode e.target

theorem not_mem_nodeIds {g : Graph} {id : String} (h : g.hasNode id = false) :
    id ∉ g.nodes.map Node.id := by
  intro hm
  obtain ⟨n, hn, rfl⟩ := List.mem_map.1 hm
  have : g.hasNode n.id = true := List.any_eq_true.2 ⟨n, hn, by simp⟩
  simp [this] at h

/-- Changes nodes in place. The change keeps every id. -/
def mapNodes (g : Graph) (f : Node → Node) (keeps : ∀ n, (f n).id = n.id) : Graph where
  nodes := g.nodes.map f
  edges := g.edges
  subgraphs := g.subgraphs
  settled := g.settled
  nodup := by
    have : Node.id ∘ f = Node.id := funext keeps
    rw [List.map_map, this]
    exact g.nodup

/-- Changes the node with the given id, if there is one. -/
def modifyNode (g : Graph) (id : String) (f : Node → Node) (keeps : ∀ n, (f n).id = n.id) : Graph :=
  g.mapNodes (fun n => if n.id = id then f n else n) fun n => by
    by_cases h : n.id = id <;> simp [h, keeps]

/-- Appends a node whose id is new. -/
def push (g : Graph) (n : Node) (new : g.hasNode n.id = false) : Graph where
  nodes := g.nodes ++ [n]
  edges := g.edges
  subgraphs := g.subgraphs
  settled := g.settled
  nodup := by
    rw [List.map_append, List.nodup_append]
    refine ⟨g.nodup, by simp, ?_⟩
    intro a ha b hb hab
    rw [List.map_singleton, List.mem_singleton] at hb
    subst hab hb
    exact not_mem_nodeIds new ha

/-- Records that the label of a node is settled. -/
def settle (g : Graph) (id : String) : Graph :=
  { g with settled := id :: g.settled }

/-- Mentions a node. The first mention of an id creates the node, and the first mention with a
label settles label and shape. -/
def mention (g : Graph) (m : Mention) : Graph :=
  if h : g.hasNode m.id = false then
    let g := g.push m.toNode h
    if m.label.isSome then g.settle m.id else g
  else
    match m.label with
    | none => g
    | some label =>
      if m.id ∈ g.settled then g
      else
        (g.modifyNode m.id (fun n => { n with label, shape := m.shape.getD n.shape })
          fun _ => rfl).settle m.id

/-- Puts a node in the place of the one that has its id, or at the end if none has. -/
def put (g : Graph) (n : Node) : Graph :=
  if h : g.hasNode n.id = false then g.push n h
  else
    g.mapNodes (fun old => if old.id = n.id then n else old) fun old => by
      by_cases h : old.id = n.id <;> simp [h]

/-- Appends a text to the members of a node. -/
def addMember (g : Graph) (id member : String) : Graph :=
  g.modifyNode id (fun n => { n with members := n.members ++ [member] }) fun _ => rfl

/-- The id of an edge that comes without one: its place among the edges. -/
def freshEdgeId (g : Graph) : String :=
  "edge_" ++ decimalString g.edges.length

/-- The edge that a link becomes when it is added. -/
def edgeOf (g : Graph) (l : Link) : Edge where
  id := if l.id = "" then g.freshEdgeId else l.id
  source := l.source
  target := l.target
  label := l.label
  lineStyle := l.lineStyle
  relation := l.relation
  arrowEnd := l.arrowEnd
  style := l.style

/-- Appends an edge. Its ends need not exist. -/
def addEdge (g : Graph) (e : Edge) : Graph :=
  { g with edges := g.edges ++ [e] }

/-- Appends the edge of a link. -/
def link (g : Graph) (l : Link) : Graph :=
  g.addEdge (g.edgeOf l)

/-- Appends a subgraph. -/
def addSubgraph (g : Graph) (s : Subgraph) : Graph :=
  { g with subgraphs := g.subgraphs ++ [s] }

/-- Lists a node in the subgraph that stands at the given place. -/
def enlist (g : Graph) (place : Nat) (id : String) : Graph :=
  { g with subgraphs := g.subgraphs.modify place fun s => { s with nodes := s.nodes ++ [id] } }

/-- The counts of nodes, edges and subgraphs, for people to read. -/
def summary (g : Graph) : String :=
  "DiagramGraph(nodes=" ++ decimalString g.nodes.length ++
    ", edges=" ++ decimalString g.edges.length ++
    ", subgraphs=" ++ decimalString g.subgraphs.length ++ ")"

end Graph

end DiagramBridge
