import DiagramBridge.Number.Digits
import DiagramBridge.Text.Blank
import DiagramBridge.Text.Case
import DiagramBridge.Text.Search

/-!
# A cheap check before reading

The check looks at the first line for the name of a diagram type and counts brackets of each kind.
A closing bracket with no open one before it is an issue on its line and leaves the count at zero;
brackets still open at the end are one issue for each kind.
-/

namespace DiagramBridge.Mermaid

open Text

/-- The kinds of brackets. -/
inductive Bracket where
  | square | curly | round
  deriving DecidableEq, Repr

namespace Bracket

/-- Every kind of bracket. -/
def all : List Bracket := [square, curly, round]

/-- The opening bracket. -/
def opener : Bracket → Char
  | square => '['
  | curly => '\x7b'
  | round => '('

/-- The closing bracket. -/
def closer : Bracket → Char
  | square => ']'
  | curly => '\x7d'
  | round => ')'

end Bracket

/-- What the check can find fault with. -/
inductive Issue where
  | empty
  | unknownType
  | stray (line : Nat) (bracket : Bracket)
  | unclosed (line count : Nat) (bracket : Bracket)
  deriving DecidableEq, Repr

namespace Issue

/-- The line of an issue, counted from one. -/
def line : Issue → Nat
  | empty | unknownType => 1
  | stray line _ => line
  | unclosed line _ _ => line

/-- What people are told. -/
def message : Issue → String
  | empty => "Mermaid code is empty"
  | unknownType =>
    "Unrecognised diagram type. Must start with: flowchart, graph, sequenceDiagram, " ++
      "classDiagram, stateDiagram, erDiagram, gantt, pie, mindmap"
  | stray _ b =>
    "Closing bracket '" ++ String.ofList [b.closer] ++ "' without a matching '" ++
      String.ofList [b.opener] ++ "'"
  | unclosed _ count b =>
    decimalString count ++ " unclosed '" ++ String.ofList [b.opener] ++ "' bracket(s)"

end Issue

/-- The names of diagram types that a text may begin with, in small letters. -/
def knownTypes : List String :=
  ["flowchart", "graph", "sequencediagram", "classdiagram", "statediagram", "erdiagram", "gantt",
    "pie", "mindmap"]

/-- The number of brackets open for each kind, and the issues found so far. -/
structure BracketCount where
  depth : Bracket → Nat
  issues : List Issue

namespace BracketCount

/-- Nothing has been counted. -/
def start : BracketCount := ⟨fun _ => 0, []⟩

/-- Sets the number of open brackets of one kind. -/
def setDepth (s : BracketCount) (b : Bracket) (n : Nat) : BracketCount :=
  { s with depth := fun b' => if b' = b then n else s.depth b' }

/-- Counts one character of a line. -/
def step (line : Nat) (s : BracketCount) (c : Char) : BracketCount :=
  match Bracket.all.find? (·.opener == c) with
  | some b => s.setDepth b (s.depth b + 1)
  | none =>
    match Bracket.all.find? (·.closer == c) with
    | none => s
    | some b =>
      if s.depth b = 0 then { s with issues := s.issues ++ [.stray line b] }
      else s.setDepth b (s.depth b - 1)

/-- Counts the characters of numbered lines. -/
def run (s : BracketCount) (numbered : List (List Char × Nat)) : BracketCount :=
  numbered.foldl (fun s l => l.1.foldl (step l.2) s) s

/-- The issue of the brackets of one kind left open, if any are. -/
def unclosed? (s : BracketCount) (line : Nat) (b : Bracket) : Option Issue :=
  if s.depth b = 0 then none else some (.unclosed line (s.depth b) b)

end BracketCount

/-- The issues with the brackets of a text. -/
def bracketIssues (ls : List (List Char)) : List Issue :=
  let s := BracketCount.start.run (ls.zipIdx 1)
  s.issues ++ Bracket.all.filterMap (s.unclosed? ls.length)

/-- The issues with a text. A text with a blank first line has only that one. -/
def check (text : String) : List Issue :=
  let ls := lines text.toList
  let first := trim (ls.headD [])
  if first.isEmpty then [.empty]
  else
    (if knownTypes.any (startsWith · (lower first)) then [] else [.unknownType]) ++
      bracketIssues ls

end DiagramBridge.Mermaid
