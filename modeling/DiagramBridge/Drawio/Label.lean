import DiagramBridge.Html.CharRef
import DiagramBridge.Text.Blank
import DiagramBridge.Text.Case
import DiagramBridge.Text.Rewrite
import DiagramBridge.Text.Search

/-!
# Labels of cells

The value of a cell is a piece of HTML. A label is what is left of it as plain text: elements that
start a new line leave a line feed, other tags leave nothing, and character references are replaced.
Each line is collapsed and empty lines are dropped. At last the characters that would end a label
early in Mermaid are replaced: double quotes by apostrophes and square brackets by round ones.

`cellValue` goes the other way; white space and the replaced characters apart, `clean` undoes it.
-/

namespace DiagramBridge.Drawio

open Text

/-- What follows the name of an element that makes a block of its own. -/
def afterBlockName? (s : List Char) : Option (List Char) :=
  (afterKeyword? "div".toList s).or (afterKeyword? "p".toList s)

/-- What follows a line-break tag. -/
def afterBreakTag? (s : List Char) : Option (List Char) := do
  let s ← after? "<" s
  let s ← afterKeyword? "br".toList s
  let s := trimStart s
  after? ">" ((after? "/" s).getD s)

/-- What follows the opening tag of a block. The name of the element ends there: no character of a
word follows. -/
def afterBlockTag? (s : List Char) : Option (List Char) := do
  let s ← after? "<" s
  let s ← afterBlockName? s
  if (s.head?.map isWord).getD false then none
  else (cutAt? '>' s).map (·.2)

/-- What follows the closing tag of a block. -/
def afterBlockEnd? (s : List Char) : Option (List Char) := do
  let s ← after? "</" s
  let s ← afterBlockName? s
  after? ">" (trimStart s)

/-- What follows a tag of any kind with something in it. -/
def afterTag? (s : List Char) : Option (List Char) := do
  let s ← after? "<" s
  let (inner, rest) ← cutAt? '>' s
  if inner.isEmpty then none else some rest

/-- The rule that replaces what a test finds at the front of a text. -/
def replacing (rest? : List Char → Option (List Char)) (new : List Char) : Rule := fun s =>
  (rest? s).map fun rest => stretch s rest new

/-- The character that takes the place of one that Mermaid gives a meaning to. -/
def plainChar (c : Char) : Char :=
  if c = '"' then '\''
  else if c = '[' then '('
  else if c = ']' then ')'
  else c

/-- The collapsed lines of a text that are not empty. -/
def tidyLines (s : List Char) : List (List Char) :=
  ((lines s).map collapse).filter (!·.isEmpty)

/-- A text with its lines tidied and without the characters that Mermaid gives a meaning to. -/
def normalize (s : List Char) : List Char :=
  (unlines (tidyLines s)).map plainChar

/-- The plain text of a piece of HTML, before it is normalized. -/
def plainText (s : List Char) : List Char :=
  let s := rewrite (replacing (fun s => (afterBreakTag? s).or (afterBlockTag? s)) ['\n']) s
  let s := rewrite (replacing afterBlockEnd? []) s
  let s := rewrite (literally "&nbsp;".toList [' ']) s
  let s := rewrite (replacing afterTag? []) s
  Html.unescape s

/-- The label of a cell with the given value. -/
def clean (value : List Char) : List Char :=
  normalize (plainText value)

/-- The value of a cell with the given label: each line is escaped, and line breaks are tags. -/
def cellValue (label : List Char) : List Char :=
  List.intercalate "<br>".toList ((lines label).map Html.escape)

/-- The label of a cell, at the level of strings. -/
def cleanString (value : String) : String :=
  onChars clean value

/-- The value of a cell, at the level of strings. -/
def cellValueString (label : String) : String :=
  onChars cellValue label

end DiagramBridge.Drawio
