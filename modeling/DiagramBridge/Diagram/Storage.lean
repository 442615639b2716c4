import DiagramBridge.Diagram.Graph
import DiagramBridge.Diagram.Lookup
import DiagramBridge.Json.Reader
import DiagramBridge.Json.Writer

/-!
# Graphs as JSON

A graph is stored as an object with its nodes, edges and subgraphs. Everything is written, also what
has its default; when a graph is read, only ids and the ends of edges have to be there. A node whose
id has occurred takes the place of the node before it. Which labels were settled is not stored.
-/

namespace DiagramBridge

/-- What can be wrong with a stored graph. -/
inductive StorageError where
  /-- The text is no JSON. -/
  | notJson
  /-- A field that has to be there is not. -/
  | missingField (name : String)
  /-- A field has a value of another kind. -/
  | illTypedField (name : String)
  /-- A word is not in its vocabulary. -/
  | unknownWord (e : UnknownWord)
  deriving DecidableEq, Repr

/-- The version of the form in which graphs are stored. -/
def schemaVersion : String := "1.0.0"

/-- A coordinate in JSON. -/
def Coord.toJson : Coord → Json
  | whole n => .int n
  | real x => .real x

/-- The coordinate of a JSON number. -/
def Coord.ofJson? : Json → Option Coord
  | .int n => some (whole n)
  | .real x => some (real x)
  | _ => none

/-- A box in JSON. -/
def Geometry.toJson (g : Geometry) : Json :=
  .obj [("x", g.x.toJson), ("y", g.y.toJson), ("width", g.width.toJson),
    ("height", g.height.toJson)]

def textsJson (texts : List String) : Json :=
  .arr (texts.map .str)

def Node.toJson (n : Node) : Json :=
  .obj [("id", .str n.id), ("label", .str n.label), ("shape", .str n.shape.name),
    ("kind", .str n.kind.name), ("members", textsJson n.members),
    ("geometry", (n.geometry.map Geometry.toJson).getD .null), ("style", .str n.style)]

def Edge.toJson (e : Edge) : Json :=
  .obj [("id", .str e.id), ("source", .str e.source), ("target", .str e.target),
    ("label", .str e.label), ("style_kind", .str e.lineStyle.name),
    ("relation_kind", (e.relation.map fun r => Json.str r.name).getD .null),
    ("arrow_end", .bool e.arrowEnd), ("style", .str e.style)]

def Subgraph.toJson (s : Subgraph) : Json :=
  .obj [("id", .str s.id), ("label", .str s.label), ("nodes", textsJson s.nodes)]

def Graph.toJson (g : Graph) : Json :=
  .obj [("schema_version", .str schemaVersion), ("nodes", .arr (g.nodes.map Node.toJson)),
    ("edges", .arr (g.edges.map Edge.toJson)), ("subgraphs", .arr (g.subgraphs.map Subgraph.toJson))]

namespace Storage

/-- A text in a field that may be missing. -/
def text? (j : Json) (name : String) : Except StorageError (Option String) :=
  match j.field? name with
  | none => .ok none
  | some (.str s) => .ok (some s)
  | some _ => .error (.illTypedField name)

/-- A text in a field. -/
def text (j : Json) (name : String) : Except StorageError String := do
  match ← text? j name with
  | some s => .ok s
  | none => .error (.missingField name)

/-- A text in a field, or another one if the field is missing. -/
def textOr (default : String) (j : Json) (name : String) : Except StorageError String := do
  return (← text? j name).getD default

/-- The items of a field. A missing field has none. -/
def items (j : Json) (name : String) : Except StorageError (List Json) :=
  match j.field? name with
  | none => .ok []
  | some (.arr items) => .ok items
  | some _ => .error (.illTypedField name)

/-- The texts of a field. A missing field has none. -/
def texts (j : Json) (name : String) : Except StorageError (List String) := do
  (← items j name).mapM fun
    | .str s => .ok s
    | _ => .error (.illTypedField name)

/-- A truth value in a field, or another one if the field is missing. -/
def boolOr (default : Bool) (j : Json) (name : String) : Except StorageError Bool :=
  match j.field? name with
  | none => .ok default
  | some (.bool b) => .ok b
  | some _ => .error (.illTypedField name)

/-- A box: four numbers and nothing else. -/
def geometry (j : Json) : Except StorageError Geometry :=
  let get := fun name => (j.field? name).bind Coord.ofJson?
  let box? : Option Geometry := do
    some ⟨← get "x", ← get "y", ← get "width", ← get "height"⟩
  match j, box? with
  | .obj [_, _, _, _], some box => .ok box
  | _, _ => .error (.illTypedField "geometry")

/-- The box in a field, if there is something in it. -/
def geometry? (j : Json) (name : String) : Except StorageError (Option Geometry) :=
  match j.field? name with
  | some value => if value.isTruthy then (geometry value).map some else .ok none
  | none => .ok none

/-- The relation in a field, if there is something in it. -/
def relation? (j : Json) (name : String) : Except StorageError (Option Relation) :=
  match j.field? name with
  | some value =>
    if !value.isTruthy then .ok none
    else do
      let word ← text j name
      let relation ← (Relation.lookup word).mapError .unknownWord
      .ok (some relation)
  | none => .ok none

def node (j : Json) : Except StorageError Node := do
  let id ← text j "id"
  let label ← textOr id j "label"
  let shape ← (Shape.lookup (← textOr Shape.rectangle.name j "shape")).mapError .unknownWord
  let kind ← (NodeKind.lookup (← textOr NodeKind.node.name j "kind")).mapError .unknownWord
  let members ← texts j "members"
  let geometry ← geometry? j "geometry"
  let style ← textOr "" j "style"
  return { id, label, shape, kind, members, geometry, style }

def edge (j : Json) : Except StorageError Edge := do
  let id ← text j "id"
  let source ← text j "source"
  let target ← text j "target"
  let label ← textOr "" j "label"
  let lineStyle ← (LineStyle.lookup (← textOr LineStyle.plain.name j "style_kind")).mapError
    .unknownWord
  let relation ← relation? j "relation_kind"
  let arrowEnd ← boolOr true j "arrow_end"
  let style ← textOr "" j "style"
  return { id, source, target, label, lineStyle, relation, arrowEnd, style }

def subgraph (j : Json) : Except StorageError Subgraph := do
  let id ← text j "id"
  let label ← textOr id j "label"
  let nodes ← texts j "nodes"
  return { id, label, nodes }

end Storage

/-- The graph of a JSON value. -/
def Graph.ofJson (j : Json) : Except StorageError Graph := do
  let nodes ← (← Storage.items j "nodes").mapM Storage.node
  let edges ← (← Storage.items j "edges").mapM Storage.edge
  let subgraphs ← (← Storage.items j "subgraphs").mapM Storage.subgraph
  let g := nodes.foldl put empty
  let g := edges.foldl addEdge g
  return subgraphs.foldl addSubgraph g

/-- The text in which a graph is stored. -/
def Graph.store (g : Graph) : String :=
  g.toJson.indented

/-- The graph that is stored in a text. -/
def Graph.load (text : String) : Except StorageError Graph :=
  match Json.read? text with
  | some j => ofJson j
  | none => .error .notJson

end DiagramBridge
