import DiagramBridge.Xml.Element
import DiagramBridge.Xml.Entity
import DiagramBridge.Xml.Namespace

/-!
# Reading documents

A document is read in three steps: what stands before the root is read for its declarations, the
root is cut into tokens, and the tokens are put together to a tree. A text that is no well-formed
document gives no tree. Line breaks of every convention are line feeds to begin with, and one
byte-order mark may stand in front.
-/

namespace DiagramBridge.Xml

/-- A text with every carriage return, alone or in front of a line feed, replaced by a line feed. -/
def normalizeBreaks : List Char → List Char
  | [] => []
  | '\r' :: s =>
    match s with
    | '\n' :: _ => normalizeBreaks s
    | _ => '\n' :: normalizeBreaks s
  | c :: s => c :: normalizeBreaks s

/-- An element that has begun and not ended. Text and children are kept backwards. -/
structure Frame where
  name : QName
  tag : String
  attributes : List (String × String)
  scope : Scope
  text : List Char
  children : List Element

def Frame.toElement (f : Frame) : Element :=
  .mk f.tag f.attributes (String.ofList f.text.reverse) f.children.reverse

/-- Adds a character. Behind the first child it is dropped. -/
def Frame.addChar (f : Frame) (c : Char) : Frame :=
  if f.children.isEmpty then { f with text := c :: f.text } else f

def Frame.addChild (f : Frame) (e : Element) : Frame :=
  { f with children := e :: f.children }

def Declarations.attribute? (d : Declarations) (element name : QName) : Option AttributeDecl :=
  d.attributes.find? fun a => a.element = element && a.name = name

/-- The value of an attribute as its declaration wants it. -/
def Declarations.value? (d : Declarations) (element name : QName) (written : List Char) :
    Option (List Char) :=
  (attributeValue? d d.maxDepth written).map fun value =>
    match d.attribute? element name with
    | some a => if a.isCharacterData then value else squeeze value
    | none => value

/-- The attributes with a default that an element lacks, in the order of their declarations. -/
def Declarations.defaults (d : Declarations) (element : QName) (present : List QName) :
    List (QName × List Char) :=
  (d.attributes.foldl (fun acc a =>
    match a.default with
    | some value =>
      if a.element = element && !present.contains a.name && !(acc.map (·.1)).contains a.name then
        acc ++ [(a.name, value)]
      else acc
    | none => acc) [])

/-- Whether no two of the names are equal. -/
def distinct {α : Type} [BEq α] : List α → Bool
  | [] => true
  | a :: as => !as.contains a && distinct as

/-- The frame that a start tag opens inside a scope. -/
def openFrame? (d : Declarations) (scope : Scope) (name : QName)
    (written : List (QName × List Char)) : Option Frame := do
  let names := written.map (·.1)
  if !distinct names then none
  else
    let all := written ++ d.defaults name names
    let valued ← all.mapM fun (a, value) => (d.value? name a value).map fun value => (a, value)
    let scope ← scope.bindAll? valued
    let tag ← scope.elementName? name
    let attributes ← (valued.filter fun (a, _) => (boundName? a).isNone).mapM fun (a, value) =>
      (scope.attributeName? a).map fun a => (a, String.ofList value)
    if distinct (attributes.map (·.1)) then some ⟨name, tag, attributes, scope, [], []⟩ else none

/-- The scope inside the innermost open element. -/
def scopeOf : List Frame → Scope
  | [] => .outermost
  | f :: _ => f.scope

/-- Ends an element: it becomes a child of the one around it. -/
def closeFrame (f : Frame) : List Frame → Except Element (List Frame)
  | [] => .error f.toElement
  | g :: fs => .ok (g.addChild f.toElement :: fs)

/-- Puts tokens together, given the elements that are open, the innermost first. The last token has
to be the one that ends the outermost element. -/
def build? (d : Declarations) : List Frame → List Token → Option Element
  | _, [] => none
  | fs, .startTag name written isEmpty :: ts => do
    let f ← openFrame? d (scopeOf fs) name written
    if isEmpty then
      match closeFrame f fs with
      | .ok fs => build? d fs ts
      | .error root => if ts.isEmpty then some root else none
    else build? d (f :: fs) ts
  | f :: fs, .endTag name :: ts =>
    if f.name = name then
      match closeFrame f fs with
      | .ok fs => build? d fs ts
      | .error root => if ts.isEmpty then some root else none
    else none
  | f :: fs, .char c :: ts => build? d (f.addChar c :: fs) ts
  | [], _ :: _ => none
  | _ :: _, .entity _ :: _ => none

/-- Reads the characters of a document. -/
def readChars? (s : List Char) : Option Element := do
  let s :=
    match s with
    | '\uFEFF' :: s => s
    | s => s
  let s := normalizeBreaks s
  if !s.all isXmlChar then none
  else
    let (d, s) ← declarations? s
    let (ts, rest) ← Token.scan? (s.length + 1) 0 s
    let ts ← expandTokens? d d.maxDepth ts
    let root ← build? d [] ts
    if isEpilog (rest.length + 1) rest then some root else none

/-- Reads a document. -/
def read? (text : String) : Option Element :=
  readChars? text.toList

end DiagramBridge.Xml
