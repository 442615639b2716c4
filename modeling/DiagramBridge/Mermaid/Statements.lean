import DiagramBridge.Text.Blank
import DiagramBridge.Text.Case
import DiagramBridge.Text.Search

/-!
# The statement lines of a Mermaid text

A text may be the body of one fenced block, as in a Markdown file; the fence is taken away first.
Each line is then trimmed and loses the semicolons at its end; empty lines and comments are
dropped. What is left are the statements.
-/

namespace DiagramBridge.Mermaid

open Text

/-- The mark that opens and closes a fenced block. -/
def fence : String := "\x60\x60\x60"

/-- What follows the last line feed of a text that has one. -/
def afterLastLineFeed? (s : List Char) : Option (List Char) :=
  match s.reverse.span (· != '\n') with
  | (tail, _ :: _) => some tail.reverse
  | (_, []) => none

/-- The body of a text that is one fenced block, without the blank lines around it. The opening
line ends behind the language name, the last line feed of the white space there; the closing fence
is the last thing in the text. -/
def fencedBody? (s : List Char) : Option (List Char) := do
  let s ← after? fence (trimStart s)
  let s ← afterKeyword? "mermaid".toList (trimStart s)
  let (blank, rest) := s.span isBlank
  let indent ← afterLastLineFeed? blank
  let body ← beforeEnd? fence (trimEnd (indent ++ rest))
  some (trimEnd body)

/-- A text without the fence around it, if it has one. -/
def unfence (s : List Char) : List Char :=
  (fencedBody? s).getD s

/-- A line as a statement: trimmed, and without the semicolons that end it. -/
def statement (line : List Char) : List Char :=
  trimEnd (trimEndChar ';' (trim line))

/-- A line that says something: neither empty nor a comment. -/
def isContent (line : List Char) : Bool :=
  !line.isEmpty && !startsWith "%%" line

/-- The statements of a text, in order. -/
def statements (s : List Char) : List (List Char) :=
  ((lines (unfence s)).map statement).filter isContent

end DiagramBridge.Mermaid
