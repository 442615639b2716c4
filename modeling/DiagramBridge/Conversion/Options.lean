import DiagramBridge.Diagram.Classification
import DiagramBridge.Error
import DiagramBridge.Text.Blank
import DiagramBridge.Text.Case

/-!
# Options

A conversion to Mermaid is told the direction of flowcharts and the diagram type, where the type may
be left to a guess. Options are given as words in letters of any case; the direction is looked at
first.
-/

namespace DiagramBridge

open Text

/-- The diagram type that is asked for: a certain one, or whichever suits the graph best. -/
inductive TypeChoice where
  | guess
  | fixed (type : DiagramType)
  deriving DecidableEq, Repr

namespace TypeChoice

/-- The word for leaving the type to a guess. -/
def guessName : String := "auto"

def name : TypeChoice → String
  | guess => guessName
  | fixed type => type.name

def all : List TypeChoice :=
  DiagramType.all.map fixed ++ [guess]

def ofName? (s : String) : Option TypeChoice :=
  all.find? (·.name == s)

/-- The diagram type of a graph under a choice. -/
def resolve (g : Graph) : TypeChoice → DiagramType
  | guess => g.guessType
  | fixed type => type

end TypeChoice

/-- The options of a conversion to Mermaid. -/
structure Options where
  direction : Direction := .td
  type : TypeChoice := .fixed .flowchart
  deriving DecidableEq, Repr

/-- The options given by two words. -/
def Options.ofWords (direction type : String) : Except ConversionError Options :=
  let direction := onChars upper direction
  let type := onChars lower type
  match Direction.ofName? direction, TypeChoice.ofName? type with
  | some direction, some type => .ok { direction, type }
  | none, _ => .error (.unknownDirection direction)
  | some _, none => .error (.unknownDiagramType type)

end DiagramBridge
