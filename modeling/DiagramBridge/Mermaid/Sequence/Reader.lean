import DiagramBridge.Diagram.Graph
import DiagramBridge.Text.Blank
import DiagramBridge.Text.Case
import DiagramBridge.Text.Search

/-!
# Reading sequence diagrams

A statement declares a participant or sends a message. A declaration may give a name to show. In a
message an arrow stands between two participants, with or without white space; the name on the left
is the shortest for which an arrow and the rest of a message follow. A single dash is an arrow only
when white space sets it off. Statements of any other form are passed over.
-/

namespace DiagramBridge.Mermaid.Sequence

open Text

inductive Statement where
  | participant (id label : List Char) (actor : Bool)
  | message (source target label : List Char) (dashed : Bool)
  deriving DecidableEq

/-- The arrows of messages, in the order in which they are tried. -/
def arrows : List String := ["-->>", "->>", "-->", "->", "--x", "-x", "--)", "-)"]

/-- An arrow with two dashes draws a dashed line. -/
def isDashed (arrow : String) : Bool :=
  startsWith "--" arrow.toList

/-- The name to show, given what follows the id of a participant: nothing, or the word `as` and a
text. -/
def alias? (id : List Char) (s : List Char) : Option (List Char) :=
  match s with
  | [] => some (trim id)
  | _ :: _ =>
    match afterKeyword? "as".toList (trimStart s) with
    | some (b :: s) =>
      if isBlank b && !(trimStart s).isEmpty then some (trim s) else none
    | _ => none

/-- What follows the word that declares a participant. -/
def declared? (actor : Bool) (s : List Char) : Option Statement :=
  match s with
  | [] => none
  | b :: s =>
    if !isBlank b then none
    else
      let (id, rest) := (trimStart s).span (!isBlank ·)
      if id.isEmpty then none
      else (alias? id rest).map fun label => .participant id label actor

/-- A declaration of a participant. -/
def participant? (line : List Char) : Option Statement :=
  match afterKeyword? "participant".toList line with
  | some rest => declared? false rest
  | none => (afterKeyword? "actor".toList line).bind (declared? true)

/-- A character of a name in a message: anything but white space and the colon. -/
def isNameChar (c : Char) : Bool :=
  !isBlank c && c != ':'

/-- The receiver of a message and the text behind a colon, which may be missing. -/
def receiver? (s : List Char) : Option (List Char × List Char) :=
  let (target, rest) := (trimStart s).span isNameChar
  if target.isEmpty then none
  else
    match trimStart rest with
    | [] => some (target, [])
    | ':' :: label => some (target, trim label)
    | _ => none

/-- What follows an arrow. A plus or minus in front of the receiver is a mark of its own, unless
nothing would be left for the receiver. -/
def marked? (s : List Char) : Option (List Char × List Char) :=
  let s := trimStart s
  match s with
  | c :: rest => if c = '+' || c = '-' then (receiver? rest).or (receiver? s) else receiver? s
  | [] => none

/-- An arrow at the front of a text with a receiver behind it: whether the line is dashed, the
receiver and the text. -/
def arrow? (s : List Char) : Option (Bool × List Char × List Char) :=
  arrows.findSome? fun arrow =>
    ((after? arrow s).bind marked?).map fun (target, label) => (isDashed arrow, target, label)

/-- The shortest name, continuing the characters read already, behind which an arrow follows. -/
def arrowAfterName? : List Char → Option (List Char × Bool × List Char × List Char)
  | [] => none
  | c :: s =>
    if !isNameChar c then none
    else
      match arrow? (trimStart s) with
      | some found => some ([c], found)
      | none => (arrowAfterName? s).map fun (name, found) => (c :: name, found)

/-- A message with a dash set off by white space. -/
def dashMessage? (line : List Char) : Option Statement :=
  let (source, rest) := line.span (!isBlank ·)
  if source.isEmpty then none
  else
    match trimStart rest with
    | '-' :: b :: s =>
      if !isBlank b then none
      else (receiver? s).map fun (target, label) => .message source target label false
    | _ => none

/-- A message with an arrow, or else with a dash. -/
def message? (line : List Char) : Option Statement :=
  match arrowAfterName? line with
  | some (source, dashed, target, label) => some (.message source target label dashed)
  | none => dashMessage? line

/-- Reads a statement. -/
def Statement.ofLine? (line : List Char) : Option Statement :=
  (participant? line).or (message? line)

/-- Carries out a statement. Both ends of a message become participants. -/
def step (g : Graph) : Statement → Graph
  | .participant id label actor =>
    g.mention
      { id := String.ofList id
        label := some (String.ofList label)
        shape := some (if actor then .circle else .rectangle) }
  | .message source target label dashed =>
    let source := String.ofList source
    let target := String.ofList target
    let g := (g.mention { id := source }).mention { id := target }
    g.link
      { source, target, label := String.ofList label
        lineStyle := if dashed then .dashed else .plain }

/-- The graph of the statements of a sequence diagram. -/
def read (body : List (List Char)) : Graph :=
  (body.filterMap Statement.ofLine?).foldl step .empty

end DiagramBridge.Mermaid.Sequence
