import DiagramBridge.Xml.Element

/-!
# Writing documents

An element is written on one line, or with every child on a line of its own, indented by two spaces
a level. In attributes the characters of markup and the line breaks and tabs are escaped, in
character data those of markup that it cannot have. No other character is looked at.
-/

namespace DiagramBridge.Xml

/-- A character in the value of an attribute. -/
def attributeChar (c : Char) : List Char :=
  if c = '&' then "&amp;".toList
  else if c = '<' then "&lt;".toList
  else if c = '>' then "&gt;".toList
  else if c = '"' then "&quot;".toList
  else if c = '\r' then "&#13;".toList
  else if c = '\n' then "&#10;".toList
  else if c = '\t' then "&#09;".toList
  else [c]

/-- A character of character data. -/
def textChar (c : Char) : List Char :=
  if c = '&' then "&amp;".toList
  else if c = '<' then "&lt;".toList
  else if c = '>' then "&gt;".toList
  else [c]

/-- An attribute, with the space in front of it. -/
def attributeText (a : String × String) : List Char :=
  ' ' :: a.1.toList ++ "=\"".toList ++ a.2.toList.flatMap attributeChar ++ ['"']

/-- A start tag without the mark that ends it. -/
def tagOpening (tag : String) (attributes : List (String × String)) : List Char :=
  '<' :: tag.toList ++ attributes.flatMap attributeText

def endTagText (tag : String) : List Char :=
  "</".toList ++ tag.toList ++ ['>']

namespace Element

mutual

/-- An element on one line. -/
def inlineText : Element → List Char
  | mk tag attributes text children =>
    tagOpening tag attributes ++
      if text = "" && children.isEmpty then " />".toList
      else
        '>' :: text.toList.flatMap textChar ++ inlineForest children ++ endTagText tag

/-- Several elements on one line. -/
def inlineForest : List Element → List Char
  | [] => []
  | e :: es => e.inlineText ++ inlineForest es

end

/-- A line break with the indentation of a level. -/
def lineBreak (level : Nat) : List Char :=
  '\n' :: List.replicate (2 * level) ' '

mutual

/-- An element at a level of nesting. If it has children, they stand on lines of their own and its
character data is left out. -/
def indentedText (level : Nat) : Element → List Char
  | mk tag attributes text children =>
    match children with
    | [] =>
      tagOpening tag attributes ++
        if text = "" then " />".toList else '>' :: text.toList.flatMap textChar ++ endTagText tag
    | _ :: _ =>
      tagOpening tag attributes ++ '>' :: indentedForest (level + 1) children ++
        lineBreak level ++ endTagText tag

/-- Several elements at a level of nesting, each on a line of its own. -/
def indentedForest (level : Nat) : List Element → List Char
  | [] => []
  | e :: es => lineBreak level ++ e.indentedText level ++ indentedForest level es

end

/-- An element as a text of one line. -/
def inline (e : Element) : String :=
  String.ofList e.inlineText

/-- An element as a text with a line for every element. -/
def indented (e : Element) : String :=
  String.ofList (e.indentedText 0)

end Element

end DiagramBridge.Xml
