import DiagramBridge.Diagram.Vocabulary

/-!
# Symbols of class relations

A relation is drawn by a symbol between two classes. Most symbols come in mirrored pairs. The
diamond of an aggregation stands at the whole, the head of any other symbol at the class that is
pointed to; read from left to right the edge runs from the whole to the part or to the head.
-/

namespace DiagramBridge.Mermaid.ClassDiagram

/-- What a symbol means: the relation, whether the edge runs from right to left, and the line. -/
structure Symbol where
  text : String
  relation : Relation
  reversed : Bool
  lineStyle : LineStyle
  deriving DecidableEq

/-- The symbols in the order in which they are tried: longer ones first. -/
def symbols : List Symbol :=
  [⟨"<|--", .inheritance, true, .plain⟩,
   ⟨"--|>", .inheritance, false, .plain⟩,
   ⟨"<|..", .realization, true, .dashed⟩,
   ⟨"..|>", .realization, false, .dashed⟩,
   ⟨"*--", .aggregation, false, .plain⟩,
   ⟨"--*", .aggregation, true, .plain⟩,
   ⟨"o--", .aggregation, false, .plain⟩,
   ⟨"--o", .aggregation, true, .plain⟩,
   ⟨"<..", .dependency, true, .dashed⟩,
   ⟨"..>", .dependency, false, .dashed⟩,
   ⟨"<--", .association, true, .plain⟩,
   ⟨"-->", .association, false, .plain⟩,
   ⟨"--", .association, false, .plain⟩,
   ⟨"..", .association, false, .dashed⟩]

/-- The symbol that a relation is written with. -/
def relationToken : Relation → String
  | .association => "-->"
  | .aggregation => "o--"
  | .inheritance => "--|>"
  | .realization => "..|>"
  | .dependency => "..>"

end DiagramBridge.Mermaid.ClassDiagram
