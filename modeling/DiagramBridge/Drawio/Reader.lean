import DiagramBridge.Drawio.Extraction
import DiagramBridge.Drawio.Pages
import DiagramBridge.Report

/-!
# Reading drawings

One page of a drawing is read into a graph. A page that does not exist is replaced by the first one,
with a notice. A drawing without content is refused, and so is a page without nodes.
-/

namespace DiagramBridge.Drawio

/-- The graph of a page, which page it is, and of how many. -/
structure Reading where
  graph : Graph
  pageIndex : Nat
  pageCount : Nat

/-- A graph model, which page it is, and of how many. -/
structure Selection where
  model : Xml.Element
  pageIndex : Nat
  pageCount : Nat

/-- The place of a page in a list of `count` pages, if there is one. -/
def placeOf? (index : Int) (count : Nat) : Option Nat :=
  if 0 ≤ index ∧ index < count then some index.toNat else none

/-- Selects one of the pages of a file. -/
def selectAmong (first : Xml.Element) (others : List Xml.Element) (index : Int) :
    Report Selection :=
  let elements := first :: others
  let count := elements.length
  match placeOf? index count with
  | some place => do
    let model ← .ofExcept (modelOf (elements.getD place first))
    pure ⟨model, place, count⟩
  | none => do
    Report.tell (.pageOutOfRange index count)
    let model ← .ofExcept (modelOf first)
    pure ⟨model, 0, count⟩

/-- Selects a page of a drawing. A drawing without pages is a single graph model. -/
def select (content : List Char) (index : Int) : Report Selection := do
  let root ← .ofExcept (parseMarkup content)
  if !isPaged content then pure ⟨root, 0, 1⟩
  else
    match root.descendantsTagged pageTag with
    | [] => pure ⟨root, 0, 1⟩
    | first :: others => selectAmong first others index

/-- Reads a page of a drawing. -/
def read (content : String) (index : Int) : Report Reading :=
  let content := bare content.toList
  if content.isEmpty then .ofExcept (.error .emptyDrawing)
  else do
    let selection ← select content index
    let graph := extract (cells selection.model)
    if graph.nodes.isEmpty then .ofExcept (.error .noNodesInDrawing)
    else pure ⟨graph, selection.pageIndex, selection.pageCount⟩

end DiagramBridge.Drawio
