import DiagramBridge.Diagram.Graph
import DiagramBridge.Mermaid.Flowchart.Arrow
import DiagramBridge.Mermaid.Flowchart.NodeText
import DiagramBridge.Text.Case
import DiagramBridge.Text.Fresh

/-!
# Reading flowcharts

A statement of a flowchart is passed over, opens a subgraph, closes the innermost open one, or is a
chain of nodes and arrows. The nodes of a chain are mentioned from left to right; a node belongs to
the subgraph that was innermost when it was first mentioned. Brackets without an id make an
anonymous node, which gets a numbered id that no node has.
-/

namespace DiagramBridge.Mermaid.Flowchart

open Text

/-- One statement. A subgraph is opened under an id and a label, or without a name of its own. -/
inductive Statement where
  | skipped
  | opening (id label : List Char)
  | openingUnnamed
  | closing
  | chain (c : Chain)
  deriving DecidableEq

/-- The abbreviations of directions, in small letters. -/
def directionWords : List String := ["tb", "td", "bt", "rl", "lr"]

/-- A line that only sets the direction. -/
def isDirectionLine (line : List Char) : Bool :=
  let bare := fun s => directionWords.any fun w => afterKeyword? w.toList s == some []
  bare line ||
    match afterKeyword? "direction".toList line with
    | some (c :: rest) => isBlank c && bare (trimStart rest)
    | _ => false

/-- The words that begin a statement about looks or behaviour. -/
def skippedWords : List String := ["style ", "classDef ", "class ", "linkStyle ", "click "]

/-- The id and the bracketed label behind the word that opens a subgraph, where nothing else stands
there. Without brackets, or with nothing between them, the id is the label. -/
def namedOpening? (s : List Char) : Option (List Char × List Char) :=
  match s with
  | [] => none
  | b :: s =>
    if !isBlank b then none
    else
      let (id, rest) := (trimStart s).span fun c => !isBlank c && c != '['
      if id.isEmpty then none
      else
        match trim rest with
        | [] => some (id, id)
        | '[' :: rest =>
          (beforeEnd? "]" rest).map fun label => (id, if label.isEmpty then id else unquote label)
        | _ => none

/-- A text with every run of characters that no word has replaced by one underscore. -/
def underscored (s : List Char) : List Char :=
  match s with
  | [] => []
  | c :: s =>
    if isWord c then c :: underscored s
    else
      match s with
      | [] => ['_']
      | d :: _ => if isWord d then '_' :: underscored s else underscored s

/-- The statement that opens a subgraph, given what follows the opening word. -/
def Statement.ofOpening (rest : List Char) : Statement :=
  match namedOpening? rest with
  | some (id, label) => .opening id label
  | none =>
    let label := unquote rest
    if label.isEmpty then .openingUnnamed else .opening (underscored label) label

/-- Reads a statement. -/
def Statement.ofLine (line : List Char) : Statement :=
  if isDirectionLine line || skippedWords.any (startsWith · line) then .skipped
  else
    match after? "subgraph" line with
    | some rest => .ofOpening rest
    | none => if line = "end".toList then .closing else .chain (.ofLine line)

/-- What has been read: the graph, the places of the open subgraphs, innermost first, and the
number that the next anonymous node tries. -/
structure Progress where
  graph : Graph
  scopes : List Nat
  anonymous : Nat

/-- Nothing has been read. -/
def Progress.start : Progress := ⟨.empty, [], 0⟩

/-- The id of an anonymous node. -/
def anonymousId (n : Nat) : String :=
  "node_" ++ decimalString n

/-- Settles the id of a node text. -/
def Progress.identify (p : Progress) (t : NodeText) : Progress × String :=
  if t.id.isEmpty then
    let n := firstFree p.graph.hasNode anonymousId p.graph.nodes.length p.anonymous
    ({ p with anonymous := n + 1 }, anonymousId n)
  else
    (p, String.ofList t.id)

/-- Mentions a node under its id and lists it in the innermost open subgraph if it is new. -/
def Progress.mention (p : Progress) (id : String) (bracket : Option (Shape × List Char)) :
    Progress :=
  let label := bracket.map fun b => String.ofList b.2
  let graph := p.graph.mention { id, label, shape := bracket.map (·.1) }
  match p.scopes with
  | [] => { p with graph }
  | place :: _ =>
    if p.graph.hasNode id then { p with graph } else { p with graph := graph.enlist place id }

/-- Reads one part of a chain and gives the id of the node there, if there is one. -/
def Progress.readPart (p : Progress) (part : List Char) : Progress × Option String :=
  match NodeText.read? part with
  | none => (p, none)
  | some t =>
    let (p, id) := p.identify t
    (p.mention id t.bracket, some id)

/-- Links the nodes on both sides of a hop. -/
def Progress.join (p : Progress) (source target : String) (hop : Hop) : Progress :=
  let label := String.ofList hop.label
  let link : Link :=
    { source, target, label, lineStyle := hop.lineStyle, arrowEnd := hop.arrowEnd }
  { p with graph := p.graph.link link }

/-- Reads the hops of a chain. A hop links two nodes if there is one on either side. -/
def Progress.readHops (p : Progress) (previous : Option String) :
    List (Hop × List Char) → Progress
  | [] => p
  | (hop, part) :: hops =>
    let (p, current) := p.readPart part
    let p :=
      match previous, current with
      | some source, some target => p.join source target hop
      | _, _ => p
    p.readHops current hops

def Progress.readChain (p : Progress) (c : Chain) : Progress :=
  let (p, first) := p.readPart c.first
  p.readHops first c.hops

def Progress.openSubgraph (p : Progress) (id label : String) : Progress :=
  { p with
    graph := p.graph.addSubgraph { id, label }
    scopes := p.graph.subgraphs.length :: p.scopes }

/-- Carries out a statement. -/
def Progress.step (p : Progress) : Statement → Progress
  | .skipped => p
  | .opening id label => p.openSubgraph (String.ofList id) (String.ofList label)
  | .openingUnnamed =>
    let name := "subgraph_" ++ decimalString p.graph.subgraphs.length
    p.openSubgraph name name
  | .closing => { p with scopes := p.scopes.tail }
  | .chain c => p.readChain c

/-- Reads one line and carries it out. -/
def Progress.readLine (p : Progress) (line : List Char) : Progress :=
  p.step (.ofLine line)

/-- The graph of the lines of a flowchart. -/
def read (body : List (List Char)) : Graph :=
  (body.foldl Progress.readLine .start).graph

end DiagramBridge.Mermaid.Flowchart
