import DiagramBridge.Diagram.Graph
import DiagramBridge.Text.Blank
import DiagramBridge.Text.Case
import DiagramBridge.Text.Fresh

/-!
# Identifiers

Node ids may be any text; in Mermaid an id is a word that begins with no digit and is no keyword.
`safeId` makes such a word of any id. Different ids can give the same word, so `idMap` numbers the
words that are in use already.
-/

namespace DiagramBridge.Mermaid

open Text

/-- The words that have a meaning of their own, in small letters. -/
def reservedWords : List String :=
  ["end", "graph", "flowchart", "subgraph", "direction", "click", "style", "classdef", "class"]

/-- A text with every run of white space replaced by one underscore. -/
def bridgeBlanks : List Char → List Char
  | [] => []
  | c :: s =>
    if !isBlank c then c :: bridgeBlanks s
    else
      match s with
      | [] => ['_']
      | d :: _ => if isBlank d then bridgeBlanks s else '_' :: bridgeBlanks s

/-- The characters of an id that a word can have, white space bridged by underscores. -/
def wordChars (id : List Char) : List Char :=
  (bridgeBlanks (trim id)).filter isWord

/-- A word that is no keyword: the keywords are lengthened. -/
def avoidReserved (s : List Char) : List Char :=
  if reservedWords.contains (String.ofList (lower s)) then s ++ "_node".toList else s

/-- A word that begins with no digit. -/
def avoidDigit (s : List Char) : List Char :=
  match s with
  | c :: _ => if isDigit c then "n_".toList ++ s else s
  | [] => []

/-- The Mermaid id that is nearest to a text. -/
def safeId (id : String) : String :=
  match wordChars id.toList with
  | [] => "node"
  | c :: s => String.ofList (avoidReserved (avoidDigit (c :: s)))

/-- Gives every id a Mermaid id that none of the given ones equals, one after the other. -/
def assignIds (used : List String) : List String → List (String × String)
  | [] => []
  | id :: ids =>
    let safe := numberedName used (safeId id)
    (id, safe) :: assignIds (safe :: used) ids

/-- The Mermaid ids of the nodes of a graph. -/
def idMap (g : Graph) : List (String × String) :=
  assignIds [] g.nodeIds

/-- The Mermaid id of a node by the map; an id outside the map is kept. -/
def lookupId (ids : List (String × String)) (id : String) : String :=
  (ids.lookup id).getD id

end DiagramBridge.Mermaid
