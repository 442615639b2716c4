import DiagramBridge.Mermaid.ClassDiagram.Writer
import DiagramBridge.Mermaid.Flowchart.Writer
import DiagramBridge.Mermaid.Sequence.Writer
import DiagramBridge.Mermaid.Statements

/-!
# Writing Mermaid texts
-/

namespace DiagramBridge.Mermaid

open Text

/-- The lines of a graph in the given notation. The direction counts for flowcharts only. -/
def writeLines (g : Graph) (direction : Direction) : DiagramType → List (List Char)
  | .flowchart => Flowchart.write g direction
  | .sequence => Sequence.write g
  | .classDiagram => ClassDiagram.write g

/-- The text of a graph in the given notation. -/
def write (g : Graph) (type : DiagramType) (direction : Direction) : String :=
  String.ofList (unlines (writeLines g direction type) ++ ['\n'])

/-- A text as one fenced block, the way Markdown shows diagrams. -/
def wrapMarkdown (text : String) : String :=
  fence ++ "mermaid\n" ++ onChars trim text ++ "\n" ++ fence ++ "\n"

end DiagramBridge.Mermaid
