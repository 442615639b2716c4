import DiagramBridge.Xml.Name

/-!
# Namespaces

Attributes of the form `xmlns` and `xmlns:name` bind names to namespaces for an element and
everything inside it. A bound name is written with its namespace in braces in front. Elements
without a qualifier belong to the default namespace, attributes without one to none.
-/

namespace DiagramBridge.Xml

/-- The bindings in force, the innermost first. The default namespace is bound to the empty name,
and the empty namespace is none. -/
abbrev Scope := List (List Char × List Char)

/-- The namespace that the name `xml` always has. -/
def xmlNamespace : List Char := "http://www.w3.org/XML/1998/namespace".toList

/-- The namespace of the declarations themselves, to which nothing can be bound. -/
def xmlnsNamespace : List Char := "http://www.w3.org/2000/xmlns/".toList

/-- The bindings outside the root. -/
def Scope.outermost : Scope := [("xml".toList, xmlNamespace)]

/-- The name that an attribute binds, if it is a declaration. -/
def boundName? (name : QName) : Option (List Char) :=
  if name.space = some "xmlns".toList then some name.base
  else if name = ⟨none, "xmlns".toList⟩ then some []
  else none

/-- Whether a name may be bound to a namespace. Only the default can be bound to none, and the two
reserved names and namespaces stay as they are. -/
def isBindable (name uri : List Char) : Bool :=
  if name = "xmlns".toList then false
  else if name = "xml".toList then uri = xmlNamespace
  else uri != xmlNamespace && uri != xmlnsNamespace && (name.isEmpty || !uri.isEmpty) &&
    !uri.contains '\x7d'

/-- Adds the declarations among some attributes to a scope. -/
def Scope.bindAll? (scope : Scope) : List (QName × List Char) → Option Scope
  | [] => some scope
  | (name, uri) :: rest =>
    match boundName? name with
    | none => scope.bindAll? rest
    | some bound => if isBindable bound uri then Scope.bindAll? ((bound, uri) :: scope) rest else none

/-- A name with its namespace in braces in front. -/
def expandedName (uri base : List Char) : String :=
  String.ofList (if uri.isEmpty then base else '\x7b' :: uri ++ '\x7d' :: base)

/-- The expanded name of an element. A qualifier has to be bound. -/
def Scope.elementName? (scope : Scope) (name : QName) : Option String :=
  match name.space with
  | some space => (scope.lookup space).map (expandedName · name.base)
  | none => some (expandedName ((scope.lookup []).getD []) name.base)

/-- The expanded name of an attribute. A qualifier has to be bound. -/
def Scope.attributeName? (scope : Scope) (name : QName) : Option String :=
  match name.space with
  | some space => (scope.lookup space).map (expandedName · name.base)
  | none => some (expandedName [] name.base)

end DiagramBridge.Xml
