import DiagramBridge.Conversion.Pipeline
import DiagramBridge.Text.Loose

/-!
# Conversions of loose texts

Markup is encoded before it is read, so a drawing with a loose half in it is never read. A Mermaid
text with a loose half is read like any other one; whether it is converted depends on what becomes
of the half. In a comment it is passed over, in a label it comes into the drawing, which then cannot
be encoded.
-/

namespace DiagramBridge.LooseText

/-- The pages of a drawing. Only a file of pages is read for that. -/
def pages (d : LooseText) : Except ConversionError (List Drawio.Page) :=
  if !d.isWhole && Drawio.isPaged (Drawio.bare d.text.toList) then .error .looseHalf
  else Drawio.pages d.text

/-- Converts a page of a drawing to Mermaid. -/
def toMermaid (d : LooseText) (options : Options) (pageIndex : Int) : Report MermaidResult :=
  if d.isWhole then DiagramBridge.toMermaid d.text options pageIndex
  else .ofExcept (.error .looseHalf)

/-- Converts a Mermaid text to a drawing. -/
def toDrawing (m : LooseText) (compress : Bool) : Report String := do
  let plain ← DiagramBridge.toDrawing m.text false
  if m.leaksInto plain then .ofExcept (.error .looseHalf)
  else if compress then .ofExcept (DiagramBridge.toDrawing m.text true).result
  else pure plain

/-- Converts a Mermaid text to a drawing that can stand in an address. -/
def toDrawingData (m : LooseText) : Report DrawingData := do
  let drawing ← m.toDrawing false
  pure (.ofDrawing drawing)

end DiagramBridge.LooseText
