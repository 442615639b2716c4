import DiagramBridge.Diagram.Layering

/-!
# Layout

Every layer is a row of boxes of one size. The rows stand one below the other, and all of them are
centred on one vertical line; when that leaves a box at or beyond the edge of the page, the whole
picture moves to the right. A place is given to those nodes alone that have no usable box.
-/

namespace DiagramBridge

/-- A node with a usable box. -/
def Node.isPlaced (n : Node) : Bool :=
  match n.geometry with
  | some box => !box.isDegenerate
  | none => false

namespace Layout

def boxWidth : Nat := 120

def boxHeight : Nat := 60

/-- The distance from one box of a row to the next. -/
def columnPitch : Nat := 180

/-- The distance from one row to the next. -/
def rowPitch : Nat := 120

/-- The least distance of a picture that had to move from the edge of the page. -/
def margin : Nat := 50

/-- Where the line through the middle of the rows lies, for the left edges of boxes. -/
def centre : Nat := 350

/-- The upper left corner of a box. -/
structure Place where
  x : Int
  y : Int
  deriving DecidableEq, Repr

/-- The left edge of a box in a row of the given length. -/
def column (length i : Nat) : Int :=
  centre + (columnPitch / 2 : Nat) - (columnPitch / 2 : Nat) * length + columnPitch * i

/-- The upper edge of the boxes of a row. -/
def row (depth : Nat) : Int :=
  margin + rowPitch * depth

def placesOfRow (ids : List String) (depth : Nat) : List (String × Place) :=
  ids.zipIdx.map fun (id, i) => (id, ⟨column ids.length i, row depth⟩)

/-- The places of all rows, before the picture moves. -/
def centredPlaces (g : Graph) : List (String × Place) :=
  g.layers.zipIdx.flatMap fun (ids, depth) => placesOfRow ids depth

/-- How far a picture has to move. -/
def shift (places : List (String × Place)) : Int :=
  match (places.map (·.2.x)).min? with
  | some least => if least ≤ 0 then margin - least else 0
  | none => 0

/-- The places of all nodes. -/
def places (g : Graph) : List (String × Place) :=
  let centred := centredPlaces g
  let distance := shift centred
  centred.map fun (id, place) => (id, { place with x := place.x + distance })

def box (place : Place) : Geometry where
  x := .real (.ofInt place.x)
  y := .whole place.y
  width := .whole boxWidth
  height := .whole boxHeight

/-- A node in its place, unless it has a usable box. -/
def settleNode (places : List (String × Place)) (n : Node) : Node :=
  if n.isPlaced then n
  else
    match places.lookup n.id with
    | some place => { n with geometry := some (box place) }
    | none => n

theorem id_settleNode (places : List (String × Place)) (n : Node) :
    (settleNode places n).id = n.id := by
  unfold settleNode
  split
  · rfl
  · split <;> rfl

end Layout

/-- A graph in which every node has a usable box. -/
def Graph.layout (g : Graph) : Graph :=
  g.mapNodes (Layout.settleNode (Layout.places g)) (Layout.id_settleNode _)

end DiagramBridge
