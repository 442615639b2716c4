import DiagramBridge.Number.Shortest

/-!
# Coordinates and boxes

A coordinate is a whole number or a real one, and remembers which: the two are written differently
wherever a graph is stored. A box is usable when it has a positive width and a positive height; a
width that is no number does not make it unusable.
-/

namespace DiagramBridge

/-- A coordinate or a length. -/
inductive Coord where
  | whole (n : Int)
  | real (x : Binary64)
  deriving DecidableEq

namespace Coord

/-- The coordinate as a real number. -/
def toReal : Coord → Binary64
  | whole n => .ofInt n
  | real x => x

/-- Zero, or less than zero. -/
def isNonPositive (c : Coord) : Bool :=
  c.toReal.le (.ofInt 0)

/-- The text of a coordinate in a drawing: a whole number has no point, whichever way it is held. -/
def text (c : Coord) : List Char :=
  match c.toReal.toInt? with
  | some n => decimalInt n
  | none => c.toReal.text

end Coord

/-- The position and the size of a node. -/
structure Geometry where
  x : Coord
  y : Coord
  width : Coord
  height : Coord
  deriving DecidableEq

/-- A box without area, which is as good as no box. -/
def Geometry.isDegenerate (g : Geometry) : Bool :=
  g.width.isNonPositive || g.height.isNonPositive

end DiagramBridge
