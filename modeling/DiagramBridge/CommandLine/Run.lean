import DiagramBridge.CommandLine.Arguments
import DiagramBridge.CommandLine.Input
import DiagramBridge.Conversion.Pipeline
import DiagramBridge.Diagram.Storage
import DiagramBridge.Mermaid.Precheck

/-!
# Running commands

A command is run on the text that was found at its source. What comes out is a text for the standard
output or for a file, lines for the people who watch, and an exit code.
-/

namespace DiagramBridge.CommandLine

open Text

/-- A file to be written. -/
structure Written where
  path : Path
  text : String
  deriving DecidableEq, Repr

/-- What a command leaves behind. -/
structure Outcome where
  exitCode : Nat
  output : String
  log : List String
  file : Option Written
  deriving DecidableEq, Repr

namespace Outcome

/-- A text for the standard output. -/
def ofOutput (exitCode : Nat) (output : String) (log : List String) : Outcome :=
  ⟨exitCode, output, log, none⟩

/-- A command that did not succeed. -/
def failed (message : String) (log : List String) : Outcome :=
  ofOutput 1 "" (log ++ ["Error: " ++ message])

/-- The outcome of a conversion that succeeds with a given outcome, which adds to the log. -/
def ofReport {α : Type} (r : Report α) (next : α → Outcome) : Outcome :=
  let log := r.notices.map Notice.text
  match r.result with
  | .ok a => { next a with log := log ++ (next a).log }
  | .error e => failed e.message log

/-- A text that goes to a file if there is one to write to, and to the standard output if not. -/
def ofText (text : String) : Option String → Outcome
  | none => ofOutput 0 text []
  | some path =>
    let path := Path.ofString path
    ⟨0, "", ["  Written to " ++ path.text], some ⟨path, text⟩⟩

/-- A graph that goes to a file if there is one to write to, and to the standard output if not. -/
def ofGraph (g : Graph) : Option String → Outcome
  | none => ofOutput 0 (g.store ++ "\n") []
  | some path =>
    ⟨0, "", ["  Graph written to " ++ path], some ⟨.ofString path, g.store⟩⟩

end Outcome

/-- The line of a page in a list of pages. -/
def pageLine (p : Drawio.Page) : String :=
  decimalString p.index ++ "\t" ++ p.id ++ "\t" ++ p.name ++ "\n"

/-- The line of an issue in a list of issues. -/
def issueLine (i : Mermaid.Issue) : String :=
  "line " ++ decimalString i.line ++ ": " ++ i.message ++ "\n"

def checkOutcome : List Mermaid.Issue → Outcome
  | [] => .ofOutput 0 "" ["OK"]
  | issues => .ofOutput 1 (String.join (issues.map issueLine)) []

/-- The ends of names of files that hold drawings, in small letters. -/
def drawingSuffixes : List String := [".drawio", ".xml", ".dio"]

/-- Whether an input is a drawing: its name says so, or its text begins like markup. -/
def isDrawing (input text : String) : Bool :=
  drawingSuffixes.any (fun suffix => (beforeEnd? suffix (lower input.toList)).isSome) ||
    (trimStart text.toList).head? == some '<'

def graphOf (input text : String) (page : Int) : Report Graph :=
  if isDrawing input text then do
    let reading ← Drawio.read text page
    pure reading.graph
  else do
    let diagram ← .ofExcept (Mermaid.read text)
    pure diagram.graph

def Command.runOn (text : String) : Command → Outcome
  | .toMermaid _ output page options markdown =>
    .ofReport (DiagramBridge.toMermaid text options page) fun result =>
      .ofText (if markdown then Mermaid.wrapMarkdown result.mermaid else result.mermaid) output
  | .toDrawing _ output compress =>
    .ofReport (DiagramBridge.toDrawing text compress) fun drawing =>
      .ofText (drawing ++ "\n") output
  | .pages _ =>
    .ofReport (.ofExcept (Drawio.pages text)) fun pages =>
      .ofOutput 0 (String.join (pages.map pageLine)) []
  | .validate _ => checkOutcome (Mermaid.check text)
  | .graph input output page =>
    .ofReport (graphOf input text page) fun g => .ofGraph g output

/-- The source of the text that a command reads. -/
def Command.source (c : Command) : Source :=
  .ofString c.input

/-- Runs a command on what was found at its source. -/
def Command.run (c : Command) (found : Found) : Outcome :=
  match found with
  | .text s => c.runOn s
  | .missing => .failed ("Input file not found: " ++ (Path.ofString c.input).text) []

end DiagramBridge.CommandLine
