import DiagramBridge.Diagram.Vocabulary
import DiagramBridge.Text.Quoted

/-!
# Words that are not in a vocabulary

Looking a word up in one of the closed vocabularies may fail; the failure names the vocabulary and
shows the word.
-/

namespace DiagramBridge

/-- The vocabularies in which words are looked up. -/
inductive Vocabulary where
  | shape | nodeKind | lineStyle | relation | diagramType | direction
  deriving DecidableEq, Repr

/-- The name of a vocabulary in messages. -/
def Vocabulary.name : Vocabulary → String
  | shape => "Shape"
  | nodeKind => "NodeKind"
  | lineStyle => "StyleKind"
  | relation => "RelationKind"
  | diagramType => "DiagramType"
  | direction => "Direction"

/-- A word that a vocabulary does not have. -/
structure UnknownWord where
  vocabulary : Vocabulary
  word : String
  deriving DecidableEq, Repr

/-- What people are told. -/
def UnknownWord.message (e : UnknownWord) : String :=
  Text.onChars Text.quoted e.word ++ " is not a valid " ++ e.vocabulary.name

/-- The outcome of a search as a result. -/
def orUnknown {α : Type} (vocabulary : Vocabulary) (word : String) : Option α → Except UnknownWord α
  | some a => .ok a
  | none => .error ⟨vocabulary, word⟩

/-- Looks a shape up. -/
def Shape.lookup (word : String) : Except UnknownWord Shape :=
  orUnknown .shape word (ofName? word)

/-- Looks a kind of node up. -/
def NodeKind.lookup (word : String) : Except UnknownWord NodeKind :=
  orUnknown .nodeKind word (ofName? word)

/-- Looks a line style up. -/
def LineStyle.lookup (word : String) : Except UnknownWord LineStyle :=
  orUnknown .lineStyle word (ofName? word)

/-- Looks a relation up. -/
def Relation.lookup (word : String) : Except UnknownWord Relation :=
  orUnknown .relation word (ofName? word)

/-- Looks a diagram type up. -/
def DiagramType.lookup (word : String) : Except UnknownWord DiagramType :=
  orUnknown .diagramType word (ofName? word)

/-- Looks a direction up. -/
def Direction.lookup (word : String) : Except UnknownWord Direction :=
  orUnknown .direction word (ofName? word)

end DiagramBridge
