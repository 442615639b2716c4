import DiagramBridge.Drawio.Cell
import DiagramBridge.Drawio.Payload
import DiagramBridge.Number.Digits
import DiagramBridge.Text.Search
import DiagramBridge.Xml.Reader

/-!
# Pages

A drawing is either the bare graph model of a single page or a file of pages. Which of the two it is
shows in its text, before it is read: only a file of pages has the tag that opens one. The model of
a page stands inside the page, or the text of the page is the model, as markup or as a payload.
-/

namespace DiagramBridge.Drawio

open Text Xml

/-- A page in the list of pages. -/
structure Page where
  id : String
  name : String
  index : Nat
  deriving DecidableEq, Repr

/-- The page of a drawing that has no list of pages. -/
def solePage : Page := ⟨"0", "Page 1", 0⟩

/-- A drawing without surrounding white space and without the byte-order mark at its front. -/
def bare (content : List Char) : List Char :=
  match trim content with
  | '\ufeff' :: s => trim s
  | s => s

/-- Whether a drawing is a file of pages. -/
def isPaged (content : List Char) : Bool :=
  occursIn "<mxfile".toList content

/-- The element that a text is. -/
def parseMarkup (s : List Char) : Except ConversionError Element :=
  match Xml.read? (String.ofList s) with
  | some e => .ok e
  | none => .error .malformedMarkup

/-- A page as it is listed. Without an id it is known by its place, and without a name by its
number. -/
def Page.ofElement (e : Element) (index : Nat) : Page where
  id := (nonEmpty? (e.attribute? "id")).getD (decimalString index)
  name := (nonEmpty? (e.attribute? "name")).getD ("Page " ++ decimalString (index + 1))
  index := index

/-- The pages of a drawing. -/
def pages (content : String) : Except ConversionError (List Page) :=
  let content := bare content.toList
  if !isPaged content then .ok [solePage]
  else do
    let root ← parseMarkup content
    match root.descendantsTagged pageTag with
    | [] => .ok [solePage]
    | elements => .ok (elements.zipIdx.map fun (e, index) => Page.ofElement e index)

/-- The graph model of a page. -/
def modelOf (page : Element) : Except ConversionError Element :=
  match page.descendantsTagged modelTag with
  | model :: _ => .ok model
  | [] =>
    match trim page.text.toList with
    | [] => .ok (.mk modelTag [] "" [])
    | '<' :: s => parseMarkup ('<' :: s)
    | payload => do
      let s ← Payload.decode payload
      parseMarkup (trim s)

end DiagramBridge.Drawio
