import DiagramBridge.Text.Blank
import DiagramBridge.Text.Search

/-!
# Environment files

An environment file binds names to values, `NAME=VALUE`, one a line. The word `export` may stand in
front and a comment behind. A value may stand between quotes of either kind and then run over
several lines; inside, a backslash escapes. A name without a value is bound to nothing, and a line
that cannot be read is passed over. Of several bindings of a name the last counts.
-/

namespace DiagramBridge.EnvFile

open Text

/-- A name, and its value if it has one. -/
structure Binding where
  name : String
  value : Option String
  deriving DecidableEq, Repr

/-- White space inside a line. -/
def isGap (c : Char) : Bool :=
  isBlank c && c != '\n'

/-- The text without the white space of the line at its front. -/
def skipGap (s : List Char) : List Char :=
  s.dropWhile isGap

/-- The text behind the line at its front. -/
def skipLine (s : List Char) : List Char :=
  (s.dropWhile (· != '\n')).drop 1

/-- The text behind the word `export`, if white space follows the word. -/
def skipExport (s : List Char) : List Char :=
  match after? "export" s with
  | some (c :: rest) => if isGap c then skipGap rest else s
  | _ => s

/-- The name at the front of a text, and what follows it. A name may stand between apostrophes. -/
def name? (s : List Char) : Option (List Char × List Char) :=
  match s with
  | '\'' :: s =>
    match cutAt? '\'' s with
    | some ([], _) | none => none
    | some (name, rest) => some (name, rest)
  | s =>
    match s.span fun c => !isBlank c && c != '=' && c != '#' with
    | ([], _) => none
    | (name, rest) => some (name, rest)

/-- What stands before and behind the closing quotation mark of a value. A mark behind a backslash
closes the value only when no other one does. -/
def closeQuote? (mark : Char) : List Char → Option (List Char × List Char)
  | [] => none
  | '\\' :: c :: s =>
    if c = mark then
      match closeQuote? mark s with
      | some (value, rest) => some ('\\' :: c :: value, rest)
      | none => some (['\\'], s)
    else (closeQuote? mark (c :: s)).map fun (value, rest) => ('\\' :: value, rest)
  | c :: s =>
    if c = mark then some ([], s)
    else (closeQuote? mark s).map fun (value, rest) => (c :: value, rest)

/-- What a letter stands for behind a backslash. -/
def escapedLetter? : Char → Option Char
  | 'a' => some '\x07'
  | 'b' => some '\x08'
  | 'f' => some '\x0c'
  | 'n' => some '\n'
  | 'r' => some '\r'
  | 't' => some '\t'
  | 'v' => some '\x0b'
  | _ => none

/-- What a character stands for behind a backslash in a value between the given marks. Backslash and
apostrophe can be escaped in all values, double quotes and letters in those between double quotes. -/
def escaped? (mark c : Char) : Option Char :=
  if c = '\\' || c = '\'' || c = mark then some c
  else if mark = '"' then escapedLetter? c
  else none

/-- A value with its escapes replaced. -/
def unescape (mark : Char) : List Char → List Char
  | [] => []
  | '\\' :: c :: s =>
    match escaped? mark c with
    | some c => c :: unescape mark s
    | none => '\\' :: unescape mark (c :: s)
  | c :: s => c :: unescape mark s

/-- A line up to the first comment behind white space. -/
def beforeComment : List Char → List Char
  | [] => []
  | c :: s =>
    if isBlank c && (trimStart s).head? == some '#' then [] else c :: beforeComment s

/-- The value at the front of a text, and what follows it. -/
def value? (s : List Char) : Option (List Char × List Char) :=
  match s with
  | '\'' :: s => (closeQuote? '\'' s).map fun (value, rest) => (unescape '\'' value, rest)
  | '"' :: s => (closeQuote? '"' s).map fun (value, rest) => (unescape '"' value, rest)
  | s =>
    let (line, rest) := s.span (· != '\n')
    some (trimEnd (beforeComment line), rest)

/-- What follows the rest of a line in which nothing but a comment may stand. -/
def lineEnd? (s : List Char) : Option (List Char) :=
  let s := skipGap s
  let s :=
    match s with
    | '#' :: s => s.dropWhile (· != '\n')
    | s => s
  match s with
  | [] => some []
  | c :: s => if c = '\n' then some s else none

/-- A binding at the front of a text, or where the reading of it failed. -/
structure Attempt where
  binding : Option Binding
  rest : List Char

/-- Goes on behind the line that could not be read. -/
def Attempt.failed (s : List Char) : Attempt := ⟨none, skipLine s⟩

/-- Ends a line with a binding on it. -/
def Attempt.ended (binding : Option Binding) (s : List Char) : Attempt :=
  match lineEnd? s with
  | some rest => ⟨binding, rest⟩
  | none => .failed s

/-- Reads what follows a name. -/
def Attempt.afterName (name s : List Char) : Attempt :=
  let name := String.ofList name
  match skipGap s with
  | '=' :: s =>
    match value? (skipGap s) with
    | some (value, rest) => .ended (some ⟨name, some (String.ofList value)⟩) rest
    | none => .failed (skipGap s)
  | s => .ended (some ⟨name, none⟩) s

/-- Reads a line that is not blank. -/
def Attempt.line (s : List Char) : Attempt :=
  match skipExport s with
  | '#' :: s => .ended none ('#' :: s)
  | s =>
    match name? s with
    | some (name, rest) => .afterName name rest
    | none => .failed s

/-- The bindings of a text. Every line takes a character at least, so as much fuel as there are
characters suffices. -/
def bindingsFrom : Nat → List Char → List Binding
  | 0, _ => []
  | fuel + 1, s =>
    match trimStart s with
    | [] => []
    | s =>
      let a := Attempt.line s
      a.binding.toList ++ bindingsFrom fuel a.rest

/-- The bindings of a file, whatever its line breaks are. -/
def bindings (text : String) : List Binding :=
  let s := unifyLineBreaks text.toList
  bindingsFrom s.length s

/-- The value that a file gives to a name. -/
def lookup? (bindings : List Binding) (name : String) : Option String :=
  (bindings.reverse.find? (·.name == name)).bind (·.value)

/-- The name of environment files. -/
def fileName : String := ".env"

/-- The places of environment files in a directory and in those around it, where the path of the
directory is given from the inside out. -/
def placesFrom : List String → List (List String)
  | [] => [[fileName]]
  | name :: outer => ((name :: outer).reverse ++ [fileName]) :: placesFrom outer

/-- Where an environment file is looked for: in a directory, given as a path from the root, and then
in each directory around it. -/
def places (directory : List String) : List (List String) :=
  placesFrom directory.reverse

end DiagramBridge.EnvFile
