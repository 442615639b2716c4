import DiagramBridge.Xml.Doctype

/-!
# Replacing entities

A reference to an entity is replaced by the entity's text: in content the text is read as content,
in the value of an attribute as characters. References inside the text are replaced in turn. An
entity cannot refer to itself, so nesting is no deeper than the number of entities.
-/

namespace DiagramBridge.Xml

open Text

/-- How deep references can be nested. -/
def Declarations.maxDepth (d : Declarations) : Nat :=
  d.replacements.length + 1

/-- Replaces the references among tokens of content, the given number of levels deep. -/
def expandTokens? (d : Declarations) : Nat → List Token → Option (List Token)
  | 0, ts => if ts.any fun | .entity _ => true | _ => false then none else some ts
  | depth + 1, ts => do
    let parts ← ts.mapM fun
      | .entity name => do
        let text ← d.replacements.lookup name
        let inner ← Token.scanAll? (text.length + 1) 0 text
        expandTokens? d depth inner
      | t => some [t]
    some parts.flatten

/-- A piece of the value of an attribute. -/
inductive ValuePiece where
  | char (c : Char)
  | entity (name : List Char)

/-- The pieces of a value as it is written. White space counts as spaces, except where it is
written by number. -/
def valuePieces? : Nat → List Char → Option (List ValuePiece)
  | 0, _ => none
  | _ + 1, [] => some []
  | fuel + 1, '&' :: s => do
    let (t, s) ← reference? s
    let more ← valuePieces? fuel s
    match t with
    | .char c => some (.char c :: more)
    | .entity name => some (.entity name :: more)
    | _ => none
  | fuel + 1, c :: s =>
    if c = '<' then none
    else (valuePieces? fuel s).map (.char (if isSpace c then ' ' else c) :: ·)

/-- The value of an attribute with its references replaced, the given number of levels deep. A
reference to an entity that may be declared elsewhere leaves nothing. -/
def attributeValue? (d : Declarations) : Nat → List Char → Option (List Char)
  | 0, _ => none
  | depth + 1, s => do
    let pieces ← valuePieces? (s.length + 1) s
    let parts ← pieces.mapM fun
      | .char c => some [c]
      | .entity name =>
        match d.replacements.lookup name with
        | some text => attributeValue? d depth text
        | none => if d.isOpen && !d.external.contains name then some [] else none
    some parts.flatten

/-- A value without spaces at its ends and with single spaces inside. -/
def squeeze (s : List Char) : List Char :=
  List.intercalate [' '] ((s.splitOn ' ').filter (!·.isEmpty))

end DiagramBridge.Xml
