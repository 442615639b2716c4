import DiagramBridge.Json.Basic
import DiagramBridge.Number.Shortest
import DiagramBridge.Text.Quoted

/-!
# Spelling values out in messages

A message that names a value shows a text as it is. Any other value is spelled out, and texts inside
it stand between quotation marks.
-/

namespace DiagramBridge.Json

open Text

/-- Items with a comma between each two. -/
def commaSeparated (items : List (List Char)) : List Char :=
  List.intercalate ", ".toList items

mutual

/-- A value inside a message or inside another value. -/
def spelling : Json → List Char
  | null => "None".toList
  | bool b => (if b then "True" else "False").toList
  | int n => decimalInt n
  | real x => x.text
  | str s => quoted s.toList
  | arr items => '[' :: commaSeparated (spellings items) ++ [']']
  | obj fields => '\x7b' :: commaSeparated (fieldSpellings fields) ++ ['\x7d']

/-- Items of an array. -/
def spellings : List Json → List (List Char)
  | [] => []
  | item :: items => spelling item :: spellings items

/-- Fields of an object. -/
def fieldSpellings : List (String × Json) → List (List Char)
  | [] => []
  | (key, value) :: fields =>
    (quoted key.toList ++ ": ".toList ++ spelling value) :: fieldSpellings fields

end

/-- A value as a message shows it. -/
def shown : Json → String
  | str s => s
  | j => String.ofList (spelling j)

end DiagramBridge.Json
