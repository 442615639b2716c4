import DiagramBridge.Conversion.Loose
import DiagramBridge.Operation

/-!
# Sessions

An editor holds a drawing, with its list of pages and the number of the one that is selected, and a
Mermaid text. Each can be loaded, and each can be made from the other. The parts of a session are
changed one by one.
-/

namespace DiagramBridge

open Text

/-- What an editor holds. -/
structure Session where
  drawing : Option LooseText := none
  mermaid : Option LooseText := none
  /-- The pages of the drawing. -/
  pages : List Drawio.Page := []
  /-- The page that is selected. -/
  pageIndex : Int := 0
  deriving DecidableEq, Repr

namespace Session

/-- A session that holds nothing. -/
def empty : Session := {}

/-- What can be done with a session. -/
abbrev Operation (α : Type) : Type :=
  DiagramBridge.Operation Notice ConversionError Session α

/-- A text of nothing but white space. -/
def isBlankText (t : LooseText) : Bool :=
  t.text.toList.all isBlank

/-- Loads a drawing and selects its first page. -/
def loadDrawing (text : LooseText) : Operation (List Drawio.Page) :=
  if isBlankText text then .fail .emptyDrawing
  else do
    let pages ← .ofReport (.ofExcept text.pages)
    .change fun s => { s with pages }
    .change fun s => { s with drawing := some text }
    .change fun s => { s with pageIndex := 0 }
    pure pages

def loadMermaid (text : LooseText) : Operation Unit :=
  if isBlankText text then .fail .emptyMermaid
  else .change fun s => { s with mermaid := some text }

/-- The page with the given number. -/
def page? (s : Session) (index : Int) : Option Drawio.Page :=
  (Drawio.placeOf? index s.pages.length).bind (s.pages[·]?)

/-- Selects a page of the drawing. -/
def selectPage (index : Int) : Operation Drawio.Page := do
  let s ← .look
  if s.drawing.isNone then .fail .noDrawingLoaded
  else
    match s.page? index with
    | some page => do
      .change fun s => { s with pageIndex := index }
      pure page
    | none => .fail (.noSuchPage index s.pages.length)

/-- Converts the selected page of the drawing to Mermaid and keeps the result. -/
def toMermaid (options : Options) : Operation MermaidResult := do
  let s ← .look
  match s.drawing with
  | none => .fail .noDrawingLoaded
  | some drawing => do
    let result ← .ofReport (drawing.toMermaid options s.pageIndex)
    .change fun s => { s with mermaid := some (.ofString result.mermaid) }
    pure result

/-- Converts the Mermaid text to a drawing and loads it. -/
def toDrawing (compress : Bool) : Operation String := do
  let s ← .look
  match s.mermaid with
  | none => .fail .noMermaidLoaded
  | some mermaid => do
    let drawing ← .ofReport (mermaid.toDrawing compress)
    let _ ← loadDrawing (.ofString drawing)
    pure drawing

end Session

end DiagramBridge
