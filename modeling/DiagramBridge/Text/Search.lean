/-!
# Looking for texts in texts

Fixed words at the front, at the end or inside a text, and the cut at a character.
-/

namespace DiagramBridge.Text

/-- Whether a text begins with a word. -/
def startsWith (word : String) (s : List Char) : Bool :=
  word.toList.isPrefixOf s

/-- What follows a word at the front of a text. -/
def after? (word : String) (s : List Char) : Option (List Char) :=
  word.toList.isPrefixOf? s

/-- What precedes a word at the end of a text. -/
def beforeEnd? (word : String) (s : List Char) : Option (List Char) :=
  (word.toList.reverse.isPrefixOf? s.reverse).map List.reverse

/-- Whether one text occurs in another. -/
def occursIn (needle : List Char) : List Char → Bool
  | [] => needle.isEmpty
  | c :: s => needle.isPrefixOf (c :: s) || occursIn needle s

/-- The texts before and behind the first occurrence of a character. -/
def cutAt? (c : Char) (s : List Char) : Option (List Char × List Char) :=
  match s.span (· != c) with
  | (front, _ :: rest) => some (front, rest)
  | (_, []) => none

end DiagramBridge.Text
