import DiagramBridge.Diagram.Vocabulary
import DiagramBridge.Mermaid.LabelText
import DiagramBridge.Text.Search

/-!
# Arrows of flowcharts

An arrow is one of six tokens, for three line styles with and without a head. A label follows it
between bars; an arrow of plain style with a head can also carry its label inside, between two
dashes and the token. `Chain.ofLine` cuts a line at its arrows, from the left: at each place the
tokens are tried in a fixed order, and a label is taken when there is one.
-/

namespace DiagramBridge.Mermaid.Flowchart

open Text

/-- The token for a line style, with or without a head. -/
def arrowToken : LineStyle → Bool → String
  | .plain, true => "-->"
  | .plain, false => "---"
  | .dashed, true => "-.->"
  | .dashed, false => "-.-"
  | .thick, true => "==>"
  | .thick, false => "==="

/-- The tokens in the order in which they are tried. -/
def arrows : List (LineStyle × Bool) :=
  [(.plain, true), (.plain, false), (.dashed, true), (.dashed, false), (.thick, true),
    (.thick, false)]

/-- The step from one node to the next on a line: an arrow with its label, which may be empty. -/
structure Hop where
  lineStyle : LineStyle
  arrowEnd : Bool
  label : List Char
  deriving DecidableEq

/-- The text between two bars at the front, and what follows the second bar. -/
def barLabel? (s : List Char) : Option (List Char × List Char) :=
  match trimStart s with
  | '|' :: s => cutAt? '|' s
  | _ => none

/-- An arrow token at the front, with the label behind it if there is one. -/
def tokenHop? (s : List Char) : Option (Hop × List Char) :=
  arrows.findSome? fun (lineStyle, arrowEnd) =>
    (after? (arrowToken lineStyle arrowEnd) s).map fun rest =>
      match barLabel? rest with
      | some (label, rest) => ({ lineStyle, arrowEnd, label := unquote label }, rest)
      | none => ({ lineStyle, arrowEnd, label := [] }, rest)

/-- The text before the first arrow token that has white space in front of it, and what follows
the token. A greater-than sign ends the search. -/
def untilArrow? : List Char → Option (List Char × List Char)
  | [] => none
  | c :: s =>
    if isBlank c then
      match after? "-->" (trimStart s) with
      | some rest => some ([], rest)
      | none => (untilArrow? s).map fun (text, rest) => (c :: text, rest)
    else if c = '>' then none
    else (untilArrow? s).map fun (text, rest) => (c :: text, rest)

/-- An arrow with its label inside, at the front: two dashes, white space, the label, white space
and the token. The label begins with none of `|`, `>` and `-`. -/
def inlineHop? (s : List Char) : Option (Hop × List Char) := do
  let s ← after? "--" s
  match s with
  | [] => none
  | b :: s =>
    if !isBlank b then none
    else
      match trimStart s with
      | [] => none
      | c :: s =>
        if c = '|' || c = '>' || c = '-' then none
        else
          let (label, rest) ← untilArrow? s
          some ({ lineStyle := .plain, arrowEnd := true, label := unquote (c :: label) }, rest)

/-- An arrow of any form at the front of a text, and what follows it. -/
def hopAt? (s : List Char) : Option (Hop × List Char) :=
  (tokenHop? s).or (inlineHop? s)

/-- A line cut at its arrows: the text before the first, and each arrow with the text up to the
next one. -/
structure Chain where
  first : List Char
  hops : List (Hop × List Char)
  deriving DecidableEq

/-- The chain of a line of which the given number of characters belongs to an arrow already read. -/
def Chain.after : Nat → List Char → Chain
  | _, [] => ⟨[], []⟩
  | n + 1, _ :: s => Chain.after n s
  | 0, c :: s =>
    match hopAt? (c :: s) with
    | some (hop, rest) =>
      let chain := Chain.after (s.length - rest.length) s
      ⟨[], (hop, chain.first) :: chain.hops⟩
    | none =>
      let chain := Chain.after 0 s
      ⟨c :: chain.first, chain.hops⟩

def Chain.ofLine (line : List Char) : Chain :=
  Chain.after 0 line

end DiagramBridge.Mermaid.Flowchart
