import DiagramBridge.Json.Basic
import DiagramBridge.Number.Shortest
import DiagramBridge.Text.Quoted

/-!
# Writing JSON

Every character outside the printable ASCII range is escaped, characters beyond the basic plane as
a pair of code units. A real number is written with the fewest digits that read back. There are two
layouts: one line, and one item a line with each level indented by two spaces.
-/

namespace DiagramBridge.Json

open Text

/-- One code unit as an escape. -/
def unitEscape (n : Nat) : List Char :=
  '\\' :: 'u' :: hexDigits 4 n

/-- A character inside a text. -/
def charText (c : Char) : List Char :=
  if c = '"' then ['\\', '"']
  else if c = '\\' then ['\\', '\\']
  else if c = '\n' then ['\\', 'n']
  else if c = '\r' then ['\\', 'r']
  else if c = '\t' then ['\\', 't']
  else if c = '\x08' then ['\\', 'b']
  else if c = '\x0c' then ['\\', 'f']
  else if 32 ≤ c.toNat && c.toNat < 127 then [c]
  else if c.toNat < 0x10000 then unitEscape c.toNat
  else
    let n := c.toNat - 0x10000
    unitEscape (0xD800 + n / 0x400) ++ unitEscape (0xDC00 + n % 0x400)

/-- A text between quotes. -/
def strText (s : String) : List Char :=
  '"' :: s.toList.flatMap charText ++ ['"']

/-- A real number. -/
def realText : Binary64 → List Char
  | .nan => "NaN".toList
  | .infinite negative => (if negative then "-Infinity" else "Infinity").toList
  | x => x.text

mutual

/-- A value on one line. -/
def compactText : Json → List Char
  | null => "null".toList
  | bool b => (if b then "true" else "false").toList
  | int n => decimalInt n
  | real x => realText x
  | str s => strText s
  | arr items => '[' :: compactItems items ++ [']']
  | obj fields => '\x7b' :: compactFields fields ++ ['\x7d']

/-- Items on one line. -/
def compactItems : List Json → List Char
  | [] => []
  | [v] => compactText v
  | v :: vs => compactText v ++ ',' :: compactItems vs

/-- Fields on one line. -/
def compactFields : List (String × Json) → List Char
  | [] => []
  | [(k, v)] => strText k ++ ':' :: compactText v
  | (k, v) :: fs => strText k ++ ':' :: compactText v ++ ',' :: compactFields fs

end

/-- A line break with the indentation of a level. -/
def newline (level : Nat) : List Char :=
  '\n' :: List.replicate (2 * level) ' '

mutual

/-- A value at a level of nesting, one item or field a line. -/
def indentedText (level : Nat) : Json → List Char
  | null => "null".toList
  | bool b => (if b then "true" else "false").toList
  | int n => decimalInt n
  | real x => realText x
  | str s => strText s
  | arr items =>
    match items with
    | [] => "[]".toList
    | _ :: _ => '[' :: indentedItems (level + 1) items ++ newline level ++ [']']
  | obj fields =>
    match fields with
    | [] => "\x7b\x7d".toList
    | _ :: _ => '\x7b' :: indentedFields (level + 1) fields ++ newline level ++ ['\x7d']

/-- Items, each on a line of its own. -/
def indentedItems (level : Nat) : List Json → List Char
  | [] => []
  | [v] => newline level ++ indentedText level v
  | v :: vs => newline level ++ indentedText level v ++ ',' :: indentedItems level vs

/-- Fields, each on a line of its own. -/
def indentedFields (level : Nat) : List (String × Json) → List Char
  | [] => []
  | [(k, v)] => newline level ++ strText k ++ ": ".toList ++ indentedText level v
  | (k, v) :: fs =>
    newline level ++ strText k ++ ": ".toList ++ indentedText level v ++
      ',' :: indentedFields level fs

end

/-- A value as a text of one line. -/
def compact (v : Json) : String :=
  String.ofList (compactText v)

/-- A value as a text of many lines. -/
def indented (v : Json) : String :=
  String.ofList (indentedText 0 v)

end DiagramBridge.Json
