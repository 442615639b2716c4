import DiagramBridge.Diagram.Graph
import DiagramBridge.Mermaid.ClassDiagram.Relation
import DiagramBridge.Text.Blank
import DiagramBridge.Text.Search
import DiagramBridge.Text.Word

/-!
# Reading class diagrams

A statement declares a class, relates two classes, or names one member of a class. A declaration
may open a body; then every line up to one that begins with a closing brace is a member. Statements
of any other form are passed over.
-/

namespace DiagramBridge.Mermaid.ClassDiagram

open Text

/-- One statement outside a class body. -/
inductive Statement where
  | declaration (id label : List Char) (opensBody : Bool)
  | relation (left right label : List Char) (symbol : Symbol)
  | member (id text : List Char)
  deriving DecidableEq

/-- The end of a declaration: nothing, an opening brace, or both braces, with white space anywhere.
The answer says whether a body is opened and left open. -/
def bodyMark? (s : List Char) : Option Bool :=
  let s := trimStart s
  let (opens, s) :=
    match s with
    | '\x7b' :: s => (true, trimStart s)
    | s => (false, s)
  let (closes, s) :=
    match s with
    | '\x7d' :: s => (true, trimStart s)
    | s => (false, s)
  if s.isEmpty then some (opens && !closes) else none

/-- The end of a display label: a quote if there is one, the closing bracket and the end of the
declaration. -/
def labelEnd? (s : List Char) : Option Bool :=
  let s :=
    match s with
    | '"' :: s => s
    | s => s
  match trimStart s with
  | ']' :: s => bodyMark? s
  | _ => none

/-- The shortest display label behind which the declaration ends. -/
def displayLabel? : List Char → Option (List Char × Bool)
  | [] => none
  | c :: s =>
    match labelEnd? (c :: s) with
    | some opens => some ([], opens)
    | none => (displayLabel? s).map fun (label, opens) => (c :: label, opens)

/-- A text without the type parameters at its front, which stand between tildes. -/
def dropTypeParameters? (s : List Char) : Option (List Char) :=
  match s with
  | '~' :: s => (cutAt? '~' s).map (·.2)
  | s => some s

/-- A declaration: the id, perhaps type parameters, perhaps a display label between brackets, and
perhaps braces. Without a display label the id is shown. -/
def declaration? (line : List Char) : Option Statement := do
  let s ← after? "class" line
  match s with
  | [] => none
  | b :: s =>
    if !isBlank b then none
    else
      let (id, rest) := spanWord (trimStart s)
      if id.isEmpty then none
      else
        let rest ← dropTypeParameters? rest
        match trimStart rest with
        | '[' :: rest =>
          let rest := trimStart rest
          let rest :=
            match rest with
            | '"' :: rest => rest
            | rest => rest
          let (label, opens) ← displayLabel? rest
          some (.declaration id (if label.isEmpty then id else label) opens)
        | rest =>
          let opens ← bodyMark? rest
          some (.declaration id id opens)

/-- A text without the quoted cardinality at its front. A quote that is not closed is an error. -/
def dropCardinality? (s : List Char) : Option (List Char) :=
  match s with
  | '"' :: s => (cutAt? '"' s).map fun (_, rest) => trimStart rest
  | s => some s

/-- The class on the right of a symbol and the label behind a colon, which may be missing. -/
def rightSide? (s : List Char) : Option (List Char × List Char) := do
  let s ← dropCardinality? (trimStart s)
  let (right, rest) := s.span fun c => !isBlank c && c != '"' && c != ':'
  if right.isEmpty then none
  else
    match trimStart rest with
    | [] => some (right, [])
    | ':' :: label => some (right, trim label)
    | _ => none

/-- A symbol at the front of a text with a class behind it. -/
def symbol? (s : List Char) : Option (Symbol × List Char × List Char) :=
  symbols.findSome? fun symbol =>
    ((after? symbol.text s).bind rightSide?).map fun side => (symbol, side)

/-- The shortest name of a class behind which a cardinality may stand and a symbol follows. -/
def symbolAfterName? : List Char → Option (List Char × Symbol × List Char × List Char)
  | [] => none
  | c :: s =>
    if isBlank c || c = '"' then none
    else
      match (dropCardinality? (trimStart s)).bind symbol? with
      | some found => some ([c], found)
      | none => (symbolAfterName? s).map fun (name, found) => (c :: name, found)

/-- A relation between two classes. -/
def relation? (line : List Char) : Option Statement :=
  (symbolAfterName? line).map fun (left, symbol, right, label) =>
    .relation left right label symbol

/-- One member of a class, behind a colon. -/
def member? (line : List Char) : Option Statement :=
  let (id, rest) := spanWord line
  if id.isEmpty then none
  else
    match trimStart rest with
    | ':' :: text => if (trim text).isEmpty then none else some (.member id (trim text))
    | _ => none

/-- Reads a statement outside a class body. -/
def Statement.ofLine? (line : List Char) : Option Statement :=
  ((declaration? line).or (relation? line)).or (member? line)

/-- What has been read: the graph, and the class whose body is open. -/
structure Progress where
  graph : Graph
  body : Option String

/-- Nothing has been read. -/
def Progress.start : Progress := ⟨.empty, none⟩

/-- Mentions a class, with its label if the statement gives one. -/
def mentionClass (g : Graph) (id : String) (label : Option String) : Graph :=
  g.mention { id, label, shape := some .classBox, kind := .classLike }

/-- Carries out a statement. -/
def Progress.step (p : Progress) : Statement → Progress
  | .declaration id label opensBody =>
    let id := String.ofList id
    { graph := mentionClass p.graph id (some (String.ofList label))
      body := if opensBody then some id else none }
  | .relation left right label symbol =>
    let left := String.ofList left
    let right := String.ofList right
    let g := mentionClass (mentionClass p.graph left none) right none
    let source := if symbol.reversed then right else left
    let target := if symbol.reversed then left else right
    { p with
      graph := g.link
        { source, target, label := String.ofList label, lineStyle := symbol.lineStyle
          relation := some symbol.relation } }
  | .member id text =>
    let id := String.ofList id
    { p with graph := (mentionClass p.graph id none).addMember id (String.ofList text) }

/-- Reads one line, which inside a class body is a member or the end of the body. -/
def Progress.readLine (p : Progress) (line : List Char) : Progress :=
  match p.body with
  | some id =>
    if startsWith "\x7d" line then { p with body := none }
    else { p with graph := p.graph.addMember id (String.ofList line) }
  | none =>
    match Statement.ofLine? line with
    | some s => p.step s
    | none => p

/-- The graph of the lines of a class diagram. -/
def read (body : List (List Char)) : Graph :=
  (body.foldl Progress.readLine .start).graph

end DiagramBridge.Mermaid.ClassDiagram
