import DiagramBridge.Xml.Token

/-!
# Declarations in front of the root

A document may begin with a declaration of its version and may declare a document type. Of the
latter the declarations of entities and of attributes count: entities with their text, entities
that lie elsewhere, and attributes that have a default or a type other than character data.
Declarations of elements and notations are passed over.

When the document points to declarations outside itself and does not say that it stands alone, an
entity that is declared nowhere may be declared there.
-/

namespace DiagramBridge.Xml

open Text

/-- A declared attribute of an element: a value to supply when it is absent, and whether it is
plain character data. -/
structure AttributeDecl where
  element : QName
  name : QName
  isCharacterData : Bool
  default : Option (List Char)

/-- What a document declares. `replacements` are the texts of entities, `external` the names of
entities without a text here. -/
structure Declarations where
  replacements : List (List Char × List Char) := []
  external : List (List Char) := []
  attributes : List AttributeDecl := []
  standalone : Bool := false
  pointsOutside : Bool := false

namespace Declarations

/-- Whether an entity that is not declared here can be declared elsewhere. -/
def isOpen (d : Declarations) : Bool :=
  d.pointsOutside && !d.standalone

/-- Whether declarations count from here on. After a reference to a parameter entity they do not,
unless the document stands alone. -/
structure Progress where
  declarations : Declarations
  counts : Bool

end Declarations

/-- A character in the value of a declaration of the version, encoding or standing alone. -/
def isPseudoValueChar (c : Char) : Bool :=
  isAsciiLetter c || isAsciiDigit c || c == '.' || c == '-' || c == '_'

/-- One `name="value"` of the declaration of the version; `some none` if only white space is
left. -/
def pseudoAttribute? (s : List Char) :
    Option (Option (List Char × List Char) × List Char) :=
  match s with
  | [] => some (none, [])
  | _ :: _ => do
    let s ← space? s
    if s.isEmpty then some (none, [])
    else
      let (name, s) := s.span fun c => !isSpace c && c != '='
      let s ← after? "=" (skipSpace s)
      if name.isEmpty then none
      else
        match skipSpace s with
        | quote :: s =>
          if quote = '"' || quote = '\'' then
            let (value, rest) ← cutAt? quote s
            if value.all isPseudoValueChar then some (some (name, value), rest) else none
          else none
        | [] => none

/-- The end of the declaration of the version: whether the document says that it stands alone. -/
def standalone? (name value rest : List Char) : Option Bool :=
  if name = "standalone".toList && (skipSpace rest).isEmpty then
    if value = "yes".toList then some true
    else if value = "no".toList then some false
    else none
  else none

/-- The declaration of the version, between its marks: whether the document stands alone. -/
def versionDecl? (s : List Char) : Option Bool := do
  let (version, s) ← pseudoAttribute? s
  let (name, _) ← version
  if name != "version".toList then none
  else
    let (next, s) ← pseudoAttribute? s
    match next with
    | none => some false
    | some (name, value) =>
      if name = "encoding".toList then
        if (value.head?.map isAsciiLetter).getD false then
          let (last, s) ← pseudoAttribute? s
          match last with
          | none => some false
          | some (name, value) => standalone? name value s
        else none
      else standalone? name value s

/-- A text between quotes at the front, and what follows it. -/
def literal? (s : List Char) : Option (List Char × List Char) :=
  match s with
  | '"' :: s => cutAt? '"' s
  | '\'' :: s => cutAt? '\'' s
  | _ => none

/-- The place of something outside the document: `SYSTEM` and one literal, or `PUBLIC` and two. -/
def externalId? (s : List Char) : Option (List Char) :=
  match after? "SYSTEM" s with
  | some s => do
    let (_, s) ← literal? (← space? s)
    some s
  | none => do
    let s ← after? "PUBLIC" s
    let (_, s) ← literal? (← space? s)
    let (_, s) ← literal? (← space? s)
    some s

/-- The text of an entity: references to characters are replaced, references to entities stay. -/
def entityText? : Nat → List Char → Option (List Char)
  | 0, _ => none
  | _ + 1, [] => some []
  | _ + 1, '%' :: _ => none
  | fuel + 1, '&' :: '#' :: s => do
    let (c, s) ← charRef? s
    (entityText? fuel s).map (c :: ·)
  | fuel + 1, '&' :: s => do
    let (name, s) ← name? s
    let s ← after? ";" s
    (entityText? fuel s).map fun text => '&' :: name ++ ';' :: text
  | fuel + 1, c :: s => (entityText? fuel s).map (c :: ·)

/-- Adds an entity with its text. The first declaration of a name counts. -/
def Declarations.declareText (d : Declarations) (name text : List Char) : Declarations :=
  if (d.replacements.lookup name).isSome || d.external.contains name then d
  else { d with replacements := d.replacements ++ [(name, text)] }

/-- Adds an entity without a text here. The first declaration of a name counts. -/
def Declarations.declareExternal (d : Declarations) (name : List Char) : Declarations :=
  if (d.replacements.lookup name).isSome || d.external.contains name then d
  else { d with external := d.external ++ [name] }

/-- A declaration of an entity behind its keyword. -/
def entityDecl? (p : Declarations.Progress) (s : List Char) :
    Option (Declarations.Progress × List Char) := do
  let s ← space? s
  let (isParameter, s) ←
    match s with
    | '%' :: rest => (space? rest).map fun s => (true, s)
    | s => some (false, s)
  let (name, s) ← name? s
  let s ← space? s
  let isPredefined := (predefined? name).isSome
  match literal? s with
  | some (value, s) =>
    let text ← entityText? (value.length + 1) value
    let s ← after? ">" (skipSpace s)
    let d := if isParameter || isPredefined || !p.counts then p.declarations
      else p.declarations.declareText name text
    some ({ p with declarations := d }, s)
  | none =>
    let s ← externalId? s
    let d := if isParameter || isPredefined || !p.counts then p.declarations
      else p.declarations.declareExternal name
    match after? ">" (skipSpace s) with
    | some s => some ({ p with declarations := d }, s)
    | none =>
      if isParameter then none
      else
        let s ← after? "NDATA" (← space? s)
        let (_, s) ← name? (← space? s)
        let s ← after? ">" (skipSpace s)
        some ({ p with declarations := d }, s)

/-- The words for types of attributes, longer ones before their beginnings. -/
def attributeTypes : List String :=
  ["CDATA", "IDREFS", "IDREF", "ID", "ENTITIES", "ENTITY", "NMTOKENS", "NMTOKEN"]

/-- The type of an attribute: whether it is plain character data. A list of values stands between
parentheses. -/
def attributeType? (s : List Char) : Option (Bool × List Char) :=
  match s with
  | '(' :: s => (cutAt? ')' s).map fun (_, rest) => (false, rest)
  | s =>
    match after? "NOTATION" s with
    | some s => do
      let s ← after? "(" (← space? s)
      (cutAt? ')' s).map fun (_, rest) => (false, rest)
    | none => attributeTypes.findSome? fun word => (after? word s).map fun s => (word == "CDATA", s)

/-- The default of an attribute: a value as it is written, or none. -/
def attributeDefault? (s : List Char) : Option (Option (List Char) × List Char) :=
  match after? "#REQUIRED" s with
  | some s => some (none, s)
  | none =>
    match after? "#IMPLIED" s with
    | some s => some (none, s)
    | none => do
      let s ← match after? "#FIXED" s with
        | some s => space? s
        | none => some s
      let (value, s) ← literal? s
      if value.contains '<' then none else some (some value, s)

/-- The attributes of one element, up to the end of the declaration. -/
def attributeDecls? (element : QName) : Nat → List Char → Option (List AttributeDecl × List Char)
  | 0, _ => none
  | fuel + 1, s =>
    match after? ">" (skipSpace s) with
    | some s => some ([], s)
    | none => do
      let (name, s) ← qname? (← space? s)
      let (isCharacterData, s) ← attributeType? (← space? s)
      let (default, s) ← attributeDefault? (← space? s)
      let (more, s) ← attributeDecls? element fuel s
      some (⟨element, name, isCharacterData, default⟩ :: more, s)

/-- A declaration of attributes behind its keyword. -/
def attributeListDecl? (p : Declarations.Progress) (s : List Char) :
    Option (Declarations.Progress × List Char) := do
  let (element, s) ← qname? (← space? s)
  let (more, s) ← attributeDecls? element (s.length + 1) s
  let d := p.declarations
  if p.counts then some ({ p with declarations := { d with attributes := d.attributes ++ more } }, s)
  else some (p, s)

/-- What follows a declaration that is passed over. -/
def afterDecl? (s : List Char) : Option (List Char) := do
  let s ← space? s
  let (body, rest) ← cutAt? '>' s
  if body.contains '<' then none else some rest

/-- The declarations between the brackets of a document type, and what follows the closing one. -/
def subset? : Nat → Declarations.Progress → List Char → Option (Declarations × List Char)
  | 0, _, _ => none
  | fuel + 1, p, s => do
    match skipSpace s with
    | ']' :: s => some (p.declarations, s)
    | '%' :: s =>
      let (_, s) ← name? s
      let s ← after? ";" s
      let d := { p.declarations with pointsOutside := true }
      subset? fuel ⟨d, p.counts && d.standalone⟩ s
    | '<' :: '?' :: s => subset? fuel p (← afterInstruction? s)
    | '<' :: '!' :: s =>
      match after? "--" s with
      | some s => subset? fuel p (← afterComment? s)
      | none =>
        match after? "ENTITY" s with
        | some s =>
          let (p, s) ← entityDecl? p s
          subset? fuel p s
        | none =>
          match after? "ATTLIST" s with
          | some s =>
            let (p, s) ← attributeListDecl? p s
            subset? fuel p s
          | none =>
            let s ← (after? "ELEMENT" s).or (after? "NOTATION" s)
            subset? fuel p (← afterDecl? s)
    | _ => none

/-- A declaration of the document type behind its keyword. -/
def doctype? (d : Declarations) (s : List Char) : Option (Declarations × List Char) := do
  let (_, s) ← qname? (← space? s)
  let (d, s) ←
    match (space? s).bind externalId? with
    | some s => some ({ d with pointsOutside := true }, s)
    | none => some (d, s)
  match skipSpace s with
  | '>' :: s => some (d, s)
  | '[' :: s =>
    let (d, s) ← subset? (s.length + 1) ⟨d, true⟩ s
    let s ← after? ">" (skipSpace s)
    some (d, s)
  | _ => none

/-- What stands before the root, from a place behind the declaration of the version on: white
space, comments, instructions and at most one document type, which may have been seen already. The
rest of the text begins with the root. -/
def prolog? : Nat → Bool → Declarations → List Char → Option (Declarations × List Char)
  | 0, _, _, _ => none
  | fuel + 1, seen, d, s =>
    match skipSpace s with
    | '<' :: '?' :: s => (afterInstruction? s).bind (prolog? fuel seen d)
    | '<' :: '!' :: s =>
      match after? "--" s with
      | some s => (afterComment? s).bind (prolog? fuel seen d)
      | none => do
        if seen then none
        else
          let (d, s) ← doctype? d (← after? "DOCTYPE" s)
          prolog? fuel true d s
    | s => some (d, s)

/-- What a document declares before its root, and the rest of the document. -/
def declarations? (s : List Char) : Option (Declarations × List Char) :=
  let fuel := s.length + 1
  match after? "<?xml" s with
  | some rest =>
    match (rest.head?.map isNameChar).getD false with
    | true => prolog? fuel false {} s
    | false => do
      let (decl, rest) ← until? "?>" rest
      let standalone ← versionDecl? decl
      prolog? fuel false { standalone } rest
  | none => prolog? fuel false {} s

/-- Whether only white space, comments and instructions are left behind the root. -/
def isEpilog : Nat → List Char → Bool
  | 0, _ => false
  | fuel + 1, s =>
    match skipSpace s with
    | [] => true
    | '<' :: '?' :: s =>
      match afterInstruction? s with
      | some s => isEpilog fuel s
      | none => false
    | '<' :: '!' :: '-' :: '-' :: s =>
      match afterComment? s with
      | some s => isEpilog fuel s
      | none => false
    | _ => false

end DiagramBridge.Xml
