import DiagramBridge.Conversion.Options
import DiagramBridge.Drawio.Reader
import DiagramBridge.Drawio.Writer
import DiagramBridge.Mermaid.Reader
import DiagramBridge.Mermaid.Writer

/-!
# Conversions

A drawing is read into a graph, and the graph is written as Mermaid; a Mermaid text is read into a
graph, and the graph is laid out and written as a drawing. In between it is told how much was found.
-/

namespace DiagramBridge

open Codec

/-- A Mermaid text, its type, and the page of the drawing that it was made from. -/
structure MermaidResult where
  mermaid : String
  type : DiagramType
  pageIndex : Nat
  pageCount : Nat
  deriving DecidableEq, Repr

/-- A drawing, and the same drawing percent-encoded. -/
structure DrawingData where
  drawing : String
  encoded : String
  deriving DecidableEq, Repr

/-- A drawing with its percent-encoded form. -/
def DrawingData.ofDrawing (drawing : String) : DrawingData :=
  { drawing, encoded := Text.onChars Percent.encode drawing }

/-- The address that holds a drawing itself. -/
def DrawingData.url (d : DrawingData) : String :=
  "data:text/xml," ++ d.encoded

/-- How much a graph holds. -/
def extractedNotice (g : Graph) : Notice :=
  .extracted g.nodes.length g.validEdges.length g.subgraphs.length

/-- Converts a page of a drawing to Mermaid. -/
def toMermaid (drawing : String) (options : Options) (pageIndex : Int) : Report MermaidResult := do
  let page ← Drawio.read drawing pageIndex
  Report.tell (extractedNotice page.graph)
  Report.tellIf (1 < page.pageCount) (.convertedPage page.pageIndex page.pageCount)
  let type := options.type.resolve page.graph
  pure
    { mermaid := Mermaid.write page.graph type options.direction
      type := type
      pageIndex := page.pageIndex
      pageCount := page.pageCount }

/-- Converts a Mermaid text to a drawing. -/
def toDrawing (mermaid : String) (compress : Bool) : Report String := do
  let diagram ← .ofExcept (Mermaid.read mermaid)
  Report.tell (extractedNotice diagram.graph)
  pure (Drawio.write diagram.graph compress Drawio.defaultPageName)

/-- Converts a Mermaid text to a drawing that can stand in an address. -/
def toDrawingData (mermaid : String) : Report DrawingData := do
  let drawing ← toDrawing mermaid false
  pure (.ofDrawing drawing)

end DiagramBridge
