import DiagramBridge.Diagram.Vocabulary
import DiagramBridge.Number.Numeral
import DiagramBridge.Text.Case
import DiagramBridge.Text.Search

/-!
# Style strings

The look of a cell is a list of settings between semicolons, `key=value` or a key alone. Reading
goes from many looks to few meanings: the shape is found by words that occur anywhere in the
string, the line style and the relation by the values of single keys. Writing gives each meaning one
string, which reads back as that meaning, except that class boxes are drawn as rectangles.
-/

namespace DiagramBridge.Drawio

open Text

/-- The settings of a style string, in order. A key alone has the value `1`. -/
def settings (style : String) : List (String × String) :=
  (style.toList.splitOn ';').filterMap fun token =>
    match cutAt? '=' (trim token) with
    | some (key, value) => some (String.ofList (trim key), String.ofList (trim value))
    | none => if (trim token).isEmpty then none else some (String.ofList (trim token), "1")

/-- The value of a key. Of several settings the last counts. -/
def setting? (style key : String) : Option String :=
  (settings style).reverse.lookup key

/-- The words that tell a shape, the most specific first. All words of a rule have to occur. -/
def shapeRules : List (List String × Shape) :=
  [(["swimlane"], .subgraph),
    (["shape=process"], .subroutine),
    (["shape=cylinder"], .cylinder),
    (["shape=datastore"], .cylinder),
    (["shape=hexagon"], .hexagon),
    (["shape=parallelogram"], .parallelogram),
    (["shape=trapezoid"], .asymmetric),
    (["rhombus"], .diamond),
    (["ellipse"], .circle),
    (["rounded=1", "arcsize=50"], .stadium),
    (["rounded=1"], .rounded)]

/-- The shape that a style draws. -/
def shapeOf (style : String) : Shape :=
  let style := lower style.toList
  match shapeRules.find? fun rule => rule.1.all fun word => occursIn word.toList style with
  | some rule => rule.2
  | none => .rectangle

/-- Whether the line is dashed. -/
def isDashed (style : String) : Bool :=
  setting? style "dashed" == some "1"

/-- The width of the line. A width that is no number counts as one. -/
def strokeWidth (style : String) : Binary64 :=
  (Numeral.readReal? ((setting? style "strokeWidth").getD "1").toList).getD (.ofInt 1)

/-- The arrowhead at the end of the line, in small letters. -/
def endArrow (style : String) : String :=
  onChars lower ((setting? style "endArrow").getD "")

/-- The line style of an edge: dashes count before width. -/
def lineStyleOf (style : String) : LineStyle :=
  if isDashed style then .dashed
  else if Binary64.le (.ofInt 2) (strokeWidth style) then .thick
  else .plain

/-- An edge has an arrowhead at its end unless the style says that there is none. -/
def hasEndArrow (style : String) : Bool :=
  endArrow style != "none"

/-- The class relation that an edge draws. -/
def relationOf (style : String) : Relation :=
  let arrow := endArrow style
  if arrow = "diamond" || arrow = "diamondthin" then .aggregation
  else if arrow = "block" then (if isDashed style then .realization else .inheritance)
  else if isDashed style then .dependency
  else .association

/-- The settings that every node has. -/
def baseVertexStyle : String := "whiteSpace=wrap;html=1;"

/-- The style of a node. -/
def vertexStyle : Shape → String
  | .rectangle => "rounded=0;" ++ baseVertexStyle
  | .rounded => "rounded=1;" ++ baseVertexStyle
  | .stadium => "rounded=1;" ++ baseVertexStyle ++ "arcSize=50;"
  | .subroutine => "shape=process;" ++ baseVertexStyle
  | .cylinder => "shape=cylinder3;" ++ baseVertexStyle ++ "boundedLbl=1;"
  | .hexagon => "shape=hexagon;" ++ baseVertexStyle
  | .diamond => "rhombus;" ++ baseVertexStyle
  | .circle => "ellipse;" ++ baseVertexStyle
  | .parallelogram => "shape=parallelogram;" ++ baseVertexStyle
  | .asymmetric => "shape=trapezoid;" ++ baseVertexStyle
  | .classBox => "rounded=0;" ++ baseVertexStyle ++ "verticalAlign=top;fontStyle=1;"
  | .subgraph => "swimlane;" ++ baseVertexStyle

/-- The style of a cell that holds one member of a class. -/
def memberStyle : String :=
  "text;strokeColor=none;fillColor=none;align=left;verticalAlign=middle;" ++
    "spacingLeft=4;overflow=hidden;" ++ baseVertexStyle

/-- The settings that every edge has. -/
def baseEdgeStyle : String :=
  "edgeStyle=orthogonalEdgeStyle;rounded=1;orthogonalLoop=1;jettySize=auto;html=1;"

def lineSettings : LineStyle → String
  | .plain => ""
  | .dashed => "dashed=1;"
  | .thick => "strokeWidth=3;"

/-- The settings of a class relation. -/
def relationSettings : Relation → String
  | .association => "endArrow=classic;"
  | .aggregation => "endArrow=diamondThin;endFill=0;"
  | .inheritance => "endArrow=block;endFill=0;"
  | .realization => "endArrow=block;endFill=0;dashed=1;"
  | .dependency => "endArrow=open;dashed=1;"

/-- The style of an edge. A relation decides both line and arrowhead. -/
def edgeStyle (lineStyle : LineStyle) (arrowEnd : Bool) : Option Relation → String
  | some relation => baseEdgeStyle ++ relationSettings relation
  | none => baseEdgeStyle ++ lineSettings lineStyle ++ if arrowEnd then "" else "endArrow=none;"

end DiagramBridge.Drawio
