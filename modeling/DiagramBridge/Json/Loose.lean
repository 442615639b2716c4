import DiagramBridge.Json.Reader
import DiagramBridge.Text.Loose

/-!
# Reading JSON with loose halves

The halves in a JSON text are read as private characters that the text does not use otherwise.
-/

namespace DiagramBridge.Json

open Text

/-- The characters that can be in the texts of a JSON text: its own characters and those of its
escapes. Of a pair of escapes, the second one is taken for a loose half as well. -/
def charactersOf : List Char → List Char
  | [] => []
  | '\\' :: s =>
    match escape? (fun _ => '\uFFFD') s with
    | some (c, _) => c :: charactersOf s
    | none => charactersOf s
  | c :: s => c :: charactersOf s

/-- The first block that a JSON text does not use. If it uses all of them, it is the last one. -/
def freeBlock (s : List Char) : Nat :=
  let used := charactersOf s
  (halfBlocks.find? fun block => !used.any (isInBlock block)).getD 0x10F800

/-- Reads a text that is one JSON value, with the block that the halves in it are in. -/
def readLoose? (text : String) : Option (Json × Nat) :=
  let block := freeBlock text.toList
  (readWith? (standIn block) text).map (·, block)

end DiagramBridge.Json
