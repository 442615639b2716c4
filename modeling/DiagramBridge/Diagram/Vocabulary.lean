/-!
# The vocabulary of diagrams

The closed sets of words that diagrams are described with: shapes, kinds of nodes, line styles,
relations between classes, diagram types and directions. Each set lists its members in one fixed
order and names them; a word is looked up by its exact name.
-/

namespace DiagramBridge

/-- The outline of a node. -/
inductive Shape where
  | rectangle | rounded | stadium | subroutine | cylinder | hexagon | diamond | circle
  | parallelogram | asymmetric | classBox | subgraph
  deriving DecidableEq, Repr

namespace Shape

def all : List Shape :=
  [rectangle, rounded, stadium, subroutine, cylinder, hexagon, diamond, circle, parallelogram,
    asymmetric, classBox, subgraph]

def name : Shape → String
  | rectangle => "rectangle"
  | rounded => "rounded"
  | stadium => "stadium"
  | subroutine => "subroutine"
  | cylinder => "cylinder"
  | hexagon => "hexagon"
  | diamond => "diamond"
  | circle => "circle"
  | parallelogram => "parallelogram"
  | asymmetric => "asymmetric"
  | classBox => "class"
  | subgraph => "subgraph"

def ofName? (s : String) : Option Shape :=
  all.find? (·.name == s)

end Shape

/-- Whether a node stands for itself or for a class with members. -/
inductive NodeKind where
  | node | classLike
  deriving DecidableEq, Repr

namespace NodeKind

def all : List NodeKind := [node, classLike]

def name : NodeKind → String
  | node => "node"
  | classLike => "class"

def ofName? (s : String) : Option NodeKind :=
  all.find? (·.name == s)

end NodeKind

/-- The weight of a line. -/
inductive LineStyle where
  | plain | dashed | thick
  deriving DecidableEq, Repr

namespace LineStyle

def all : List LineStyle := [plain, dashed, thick]

def name : LineStyle → String
  | plain => "plain"
  | dashed => "dashed"
  | thick => "thick"

def ofName? (s : String) : Option LineStyle :=
  all.find? (·.name == s)

end LineStyle

/-- A relation between two classes. -/
inductive Relation where
  | association | aggregation | inheritance | realization | dependency
  deriving DecidableEq, Repr

namespace Relation

def all : List Relation := [association, aggregation, inheritance, realization, dependency]

def name : Relation → String
  | association => "association"
  | aggregation => "aggregation"
  | inheritance => "inheritance"
  | realization => "realization"
  | dependency => "dependency"

def ofName? (s : String) : Option Relation :=
  all.find? (·.name == s)

end Relation

/-- The notation a graph is written in. -/
inductive DiagramType where
  | flowchart | sequence | classDiagram
  deriving DecidableEq, Repr

namespace DiagramType

def all : List DiagramType := [flowchart, sequence, classDiagram]

def name : DiagramType → String
  | flowchart => "flowchart"
  | sequence => "sequence"
  | classDiagram => "class"

def ofName? (s : String) : Option DiagramType :=
  all.find? (·.name == s)

end DiagramType

/-- The direction in which a flowchart is read. -/
inductive Direction where
  | td | tb | bt | rl | lr
  deriving DecidableEq, Repr

namespace Direction

def all : List Direction := [td, tb, bt, rl, lr]

/-- The abbreviation for a direction. -/
def name : Direction → String
  | td => "TD"
  | tb => "TB"
  | bt => "BT"
  | rl => "RL"
  | lr => "LR"

/-- The direction with the given abbreviation. -/
def ofName? (s : String) : Option Direction :=
  all.find? (·.name == s)

end Direction

end DiagramBridge
