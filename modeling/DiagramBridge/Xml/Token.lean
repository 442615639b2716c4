import DiagramBridge.Text.Search
import DiagramBridge.Text.Word
import DiagramBridge.Xml.Name

/-!
# Tokens of markup

Element content is a row of tags, characters and references to entities. Comments, processing
instructions and the marks around literal sections leave no token. References to characters are
replaced at once; entities are left for later, because they have to be declared.

`Token.scan?` reads the content of an element up to the tag that ends it and leaves what follows;
`Token.scanAll?` reads a text in which every element that begins also ends.
-/

namespace DiagramBridge.Xml

open Text

/-- A piece of element content. The values of attributes are kept as they are written. -/
inductive Token where
  | startTag (name : QName) (attributes : List (QName × List Char)) (isEmpty : Bool)
  | endTag (name : QName)
  | char (c : Char)
  | entity (name : List Char)
  deriving DecidableEq

/-- The character with a number, if a document may have it. -/
def numberedChar? (n : Nat) : Option Char :=
  if n ≥ 0x110000 || (0xD800 ≤ n && n < 0xE000) then none
  else
    let c := Char.ofNat n
    if isXmlChar c then some c else none

/-- The character that a reference by number stands for, behind `&#`, and what follows it. -/
def charRef? (s : List Char) : Option (Char × List Char) :=
  let (base, s) :=
    match s with
    | 'x' :: s => (16, s)
    | s => (10, s)
  match s.span fun c => if base = 16 then isHexDigit c else isAsciiDigit c with
  | (d :: ds, ';' :: rest) => (numberedChar? (digitsValue base (d :: ds))).map fun c => (c, rest)
  | _ => none

/-- The entities that every document has. -/
def predefined? (name : List Char) : Option Char :=
  [("lt".toList, '<'), ("gt".toList, '>'), ("amp".toList, '&'), ("quot".toList, '"'),
    ("apos".toList, '\'')].lookup name

/-- The token of a reference, behind its ampersand, and what follows it. -/
def reference? (s : List Char) : Option (Token × List Char) :=
  match s with
  | '#' :: s => (charRef? s).map fun (c, s) => (.char c, s)
  | s => do
    let (name, rest) ← name? s
    let rest ← after? ";" rest
    match predefined? name with
    | some c => some (.char c, rest)
    | none => some (.entity name, rest)

/-- An attribute at the front of a text: its name and its value as it is written between the
quotes. -/
def attribute? (s : List Char) : Option ((QName × List Char) × List Char) := do
  let (name, s) ← qname? s
  let s ← after? "=" (skipSpace s)
  match skipSpace s with
  | quote :: s =>
    if quote = '"' || quote = '\'' then
      let (value, rest) ← cutAt? quote s
      if value.contains '<' then none else some ((name, value), rest)
    else none
  | [] => none

/-- The attributes of a start tag and the mark that ends it: whether the element is empty, and what
follows. White space stands before each attribute. -/
def attributes? : Nat → List Char → Option (List (QName × List Char) × Bool × List Char)
  | 0, _ => none
  | fuel + 1, s =>
    match skipSpace s with
    | '>' :: rest => some ([], false, rest)
    | '/' :: rest => (after? ">" rest).map fun rest => ([], true, rest)
    | _ => do
      let s ← space? s
      let (first, s) ← attribute? s
      let (more, isEmpty, rest) ← attributes? fuel s
      some (first :: more, isEmpty, rest)

/-- A start tag behind its first character. -/
def startTag? (s : List Char) : Option (Token × List Char) := do
  let (name, s) ← qname? s
  let (attributes, isEmpty, rest) ← attributes? (s.length + 1) s
  some (.startTag name attributes isEmpty, rest)

/-- An end tag behind its first two characters. -/
def endTag? (s : List Char) : Option (Token × List Char) := do
  let (name, s) ← qname? s
  let rest ← after? ">" (skipSpace s)
  some (.endTag name, rest)

/-- What follows a comment of which the opening mark has been read. Two dashes end it. -/
def afterComment? : List Char → Option (List Char)
  | [] => none
  | '-' :: '-' :: s => after? ">" s
  | _ :: s => afterComment? s

/-- What stands before a mark, and what follows the mark. -/
def until? (mark : String) : List Char → Option (List Char × List Char)
  | [] => none
  | c :: s =>
    match after? mark (c :: s) with
    | some rest => some ([], rest)
    | none => (until? mark s).map fun (front, rest) => (c :: front, rest)

/-- What follows a processing instruction of which the opening mark has been read. Its target is a
name other than `xml`, in whatever letter case. -/
def afterInstruction? (s : List Char) : Option (List Char) := do
  let (target, s) ← name? s
  if target.map Char.toLower = "xml".toList then none
  else
    match after? "?>" s with
    | some rest => some rest
    | none =>
      let s ← space? s
      (until? "?>" s).map (·.2)

/-- The tokens of the construct at the front of element content, and what follows it. -/
def token? (s : List Char) : Option (List Token × List Char) :=
  match s with
  | [] => none
  | '<' :: '/' :: s => (endTag? s).map fun (t, s) => ([t], s)
  | '<' :: '?' :: s => (afterInstruction? s).map fun s => ([], s)
  | '<' :: '!' :: s =>
    match after? "--" s with
    | some s => (afterComment? s).map fun s => ([], s)
    | none => do
      let s ← after? "[CDATA[" s
      let (data, rest) ← until? "]]>" s
      some (data.map .char, rest)
  | '<' :: s => (startTag? s).map fun (t, s) => ([t], s)
  | '&' :: s => (reference? s).map fun (t, s) => ([t], s)
  | c :: s => if startsWith "]]>" (c :: s) then none else some ([.char c], s)

/-- How many more elements are open behind a token than before it, as the number before is
given. There is no such number if an element ends that was not open. -/
def Token.depth? (depth : Nat) : Token → Option Nat
  | startTag _ _ isEmpty => some (if isEmpty then depth else depth + 1)
  | endTag _ => if depth = 0 then none else some (depth - 1)
  | _ => some depth

/-- The depth behind several tokens. -/
def Token.depthAfter? (depth : Nat) (ts : List Token) : Option Nat :=
  ts.foldlM Token.depth? depth

/-- The tokens up to the one that ends the outermost open element, and what follows it. -/
def Token.scan? : Nat → Nat → List Char → Option (List Token × List Char)
  | 0, _, _ => none
  | fuel + 1, depth, s => do
    let (ts, rest) ← token? s
    let depth ← Token.depthAfter? depth ts
    if depth = 0 then some (ts, rest)
    else
      let (more, rest) ← Token.scan? fuel depth rest
      some (ts ++ more, rest)

/-- The tokens of a whole text, in which as many elements end as begin. -/
def Token.scanAll? : Nat → Nat → List Char → Option (List Token)
  | 0, _, _ => none
  | _ + 1, depth, [] => if depth = 0 then some [] else none
  | fuel + 1, depth, c :: s => do
    let (ts, rest) ← token? (c :: s)
    let depth ← Token.depthAfter? depth ts
    (Token.scanAll? fuel depth rest).map (ts ++ ·)

end DiagramBridge.Xml
