import DiagramBridge.Number.Digits

/-!
# What can go wrong in a conversion

Documents are refused for a cause, and the cause fixes both the family and the wording of the
message. Problems of single lines and cells are no errors: such lines and cells are passed over.
-/

namespace DiagramBridge

/-- The cause of a refusal. -/
inductive ConversionError where
  /-- A drawing with no content. -/
  | emptyDrawing
  /-- A Mermaid text with no statements. -/
  | emptyMermaid
  /-- A session without a drawing. -/
  | noDrawingLoaded
  /-- A session without a Mermaid text. -/
  | noMermaidLoaded
  /-- A page payload with no content. -/
  | emptyPayload
  /-- A page payload that cannot be decoded. -/
  | badPayload
  /-- Markup that is not well-formed. -/
  | malformedMarkup
  /-- A drawing without nodes. -/
  | noNodesInDrawing
  /-- A Mermaid text without nodes. -/
  | noNodesInMermaid
  /-- A direction that does not exist. -/
  | unknownDirection (text : String)
  /-- A diagram type that does not exist. -/
  | unknownDiagramType (text : String)
  /-- A page that a drawing with so many pages does not have. -/
  | noSuchPage (index : Int) (count : Nat)
  /-- A loose half of a surrogate pair in a text that is to be encoded. -/
  | looseHalf
  deriving DecidableEq, Repr

namespace ConversionError

/-- The families of refusals. That a text cannot be encoded is not foreseen: it is an error of the
codec. -/
inductive Family where
  | emptyInput | decode | structural | noNodes | options | encoding
  deriving DecidableEq, Repr

/-- The family of a cause. -/
def family : ConversionError → Family
  | emptyDrawing | emptyMermaid | noDrawingLoaded | noMermaidLoaded => .emptyInput
  | emptyPayload | badPayload => .decode
  | malformedMarkup => .structural
  | noNodesInDrawing | noNodesInMermaid => .noNodes
  | unknownDirection _ | unknownDiagramType _ | noSuchPage .. => .options
  | looseHalf => .encoding

def Family.name : Family → String
  | emptyInput => "EmptyInputError"
  | decode => "DecodeError"
  | structural => "StructuralParseError"
  | noNodes => "NoNodesError"
  | options => "OptionsError"
  | encoding => "UnicodeEncodeError"

/-- What people are told. -/
def message : ConversionError → String
  | emptyDrawing => "Draw.io document is empty"
  | emptyMermaid => "Mermaid code is empty"
  | noDrawingLoaded => "No Draw.io document loaded"
  | noMermaidLoaded => "No Mermaid code loaded"
  | emptyPayload => "Empty diagram payload"
  | badPayload => "Could not decode Draw.io page payload"
  | malformedMarkup => "Invalid XML"
  | noNodesInDrawing => "No nodes found in the Draw.io diagram"
  | noNodesInMermaid => "No nodes found in the Mermaid code"
  | unknownDirection text =>
    "Unknown direction '" ++ text ++ "' (expected one of TD, TB, BT, RL, LR)"
  | unknownDiagramType text =>
    "Unknown diagram type '" ++ text ++ "' (expected one of flowchart, sequence, class, auto)"
  | noSuchPage index count =>
    "Page index " ++ String.ofList (decimalInt index) ++ " out of range (found " ++
      decimalString count ++ " pages)"
  | looseHalf => "surrogates not allowed"

end ConversionError

end DiagramBridge
