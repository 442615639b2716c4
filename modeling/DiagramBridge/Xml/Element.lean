/-!
# Elements

An element has a tag, attributes, character data and child elements. Tags and attribute names in a
namespace are written with the namespace in braces in front. Of the character data only what stands
before the first child is kept, for nothing asks for the rest.
-/

namespace DiagramBridge.Xml

/-- An element of a document. -/
inductive Element where
  | mk (tag : String) (attributes : List (String × String)) (text : String)
    (children : List Element)

namespace Element

def tag : Element → String
  | mk tag _ _ _ => tag

/-- The attributes, in order. -/
def attributes : Element → List (String × String)
  | mk _ attributes _ _ => attributes

/-- The character data before the first child. -/
def text : Element → String
  | mk _ _ text _ => text

/-- The child elements, in order. -/
def children : Element → List Element
  | mk _ _ _ children => children

/-- The value of an attribute. -/
def attribute? (e : Element) (name : String) : Option String :=
  e.attributes.lookup name

/-- The first child with the given tag. -/
def child? (e : Element) (tag : String) : Option Element :=
  e.children.find? (·.tag == tag)

mutual

/-- The element itself and all elements inside it, in document order. -/
def selfAndDescendants : Element → List Element
  | mk tag attributes text children =>
    mk tag attributes text children :: forestElements children

/-- The elements of several trees, in document order. -/
def forestElements : List Element → List Element
  | [] => []
  | e :: es => e.selfAndDescendants ++ forestElements es

end

/-- The elements inside an element, in document order. -/
def descendants (e : Element) : List Element :=
  forestElements e.children

/-- The elements inside an element that have the given tag, in document order. -/
def descendantsTagged (e : Element) (tag : String) : List Element :=
  e.descendants.filter (·.tag == tag)

end Element

end DiagramBridge.Xml
