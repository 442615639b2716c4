import DiagramBridge.Json.Basic
import DiagramBridge.Number.Numeral
import DiagramBridge.Text.Word

/-!
# Reading JSON

The grammar is that of JSON, widened by three words: `NaN`, `Infinity` and `-Infinity`. Of several
fields with one key the last counts. Nesting is followed with a bound on its depth that the length
of the text supplies.

An escape that is half of a surrogate pair stands for no character. A reader is told by `half` which
character to put in its place.
-/

namespace DiagramBridge.Json

open Numeral Text

/-- White space between the tokens of JSON. -/
def isSpace (c : Char) : Bool :=
  c = ' ' || c = '\t' || c = '\n' || c = '\r'

/-- The text without the white space at its front. -/
def skipSpace (s : List Char) : List Char :=
  s.dropWhile isSpace

/-- Four hexadecimal digits and what follows them. -/
def hexQuad? : List Char → Option (Nat × List Char)
  | a :: b :: c :: d :: s => do
    let a ← hexValue? a
    let b ← hexValue? b
    let c ← hexValue? c
    let d ← hexValue? d
    some (((a * 16 + b) * 16 + c) * 16 + d, s)
  | _ => none

/-- The second half of a surrogate pair, written as an escape of its own. -/
def lowHalf? : List Char → Option (Nat × List Char)
  | '\\' :: 'u' :: s =>
    match hexQuad? s with
    | some (n, s) => if 0xDC00 ≤ n && n < 0xE000 then some (n, s) else none
    | none => none
  | _ => none

variable (half : Nat → Char)

/-- The character of an escape by code unit, with the second half of a pair if it follows. -/
def unitChar (n : Nat) (s : List Char) : Char × List Char :=
  if 0xD800 ≤ n && n < 0xDC00 then
    match lowHalf? s with
    | some (low, s) => (Char.ofNat (0x10000 + (n - 0xD800) * 0x400 + (low - 0xDC00)), s)
    | none => (half n, s)
  else if 0xDC00 ≤ n && n < 0xE000 then (half n, s)
  else (Char.ofNat n, s)

/-- What a backslash and the characters behind it stand for. -/
def escape? : List Char → Option (Char × List Char)
  | '"' :: s => some ('"', s)
  | '\\' :: s => some ('\\', s)
  | '/' :: s => some ('/', s)
  | 'b' :: s => some ('\x08', s)
  | 'f' :: s => some ('\x0c', s)
  | 'n' :: s => some ('\n', s)
  | 'r' :: s => some ('\r', s)
  | 't' :: s => some ('\t', s)
  | 'u' :: s => (hexQuad? s).map fun (n, s) => unitChar half n s
  | _ => none

/-- The rest of a text up to the closing quote, and what follows the quote. -/
def textRest? : Nat → List Char → Option (List Char × List Char)
  | 0, _ => none
  | _, [] => none
  | _, '"' :: s => some ([], s)
  | fuel + 1, '\\' :: s => do
    let (c, s) ← escape? half s
    let (text, s) ← textRest? fuel s
    some (c :: text, s)
  | fuel + 1, c :: s =>
    if c.toNat < 32 then none
    else (textRest? fuel s).map fun (text, s) => (c :: text, s)

/-- The digits of a fraction behind a point, if there are any. -/
def fractionPart (s : List Char) : List Char × List Char :=
  match s with
  | '.' :: s =>
    let (ds, rest) := s.span isAsciiDigit
    if ds.isEmpty then ([], '.' :: s) else ('.' :: ds, rest)
  | s => ([], s)

/-- The exponent of a number, if there is one. -/
def exponentPart (s : List Char) : List Char × List Char :=
  match s with
  | c :: s =>
    if c = 'e' || c = 'E' then
      let (sign, digits) :=
        match s with
        | '+' :: s => (['+'], s)
        | '-' :: s => (['-'], s)
        | s => ([], s)
      let (ds, rest) := digits.span isAsciiDigit
      if ds.isEmpty then ([], c :: s) else (c :: sign ++ ds, rest)
    else ([], c :: s)
  | [] => ([], [])

/-- A number, and what follows it. -/
def number? (s : List Char) : Option (Json × List Char) := do
  let (negative, s) :=
    match s with
    | '-' :: s => (true, s)
    | s => (false, s)
  let (whole, s) :=
    match s with
    | '0' :: s => (['0'], s)
    | s => s.span isAsciiDigit
  if whole.isEmpty then none
  else
    let (fraction, s) := fractionPart s
    let (exponent, s) := exponentPart s
    if fraction.isEmpty && exponent.isEmpty then
      if whole.length > maxIntegerDigits then none
      else some (.int (Binary64.signed negative (digitsFrom 0 whole)), s)
    else
      let x ← readUnsigned? negative (whole ++ fraction ++ exponent)
      some (.real x, s)

/-- A word that stands for a value. -/
def word? (s : List Char) : Option (Json × List Char) :=
  [("null", Json.null), ("true", .bool true), ("false", .bool false), ("NaN", .real .nan),
    ("Infinity", .real (.infinite false)), ("-Infinity", .real (.infinite true))].findSome?
    fun (word, value) => (word.toList.isPrefixOf? s).map fun rest => (value, rest)

mutual

/-- A value at the front of a text, and what follows it. -/
def value? : Nat → List Char → Option (Json × List Char)
  | 0, _ => none
  | fuel + 1, s =>
    match s with
    | '"' :: s =>
      (textRest? half (s.length + 1) s).map fun (text, s) => (.str (String.ofList text), s)
    | '[' :: s =>
      match skipSpace s with
      | ']' :: s => some (.arr [], s)
      | s => (items? fuel s).map fun (items, s) => (.arr items, s)
    | '\x7b' :: s =>
      match skipSpace s with
      | '\x7d' :: s => some (.obj [], s)
      | s => (fields? fuel s).map fun (fields, s) => (.ofFields fields, s)
    | s => (word? s).or (number? s)

/-- The items of an array from the first one on, and what follows the closing bracket. -/
def items? : Nat → List Char → Option (List Json × List Char)
  | 0, _ => none
  | fuel + 1, s => do
    let (item, s) ← value? fuel (skipSpace s)
    match skipSpace s with
    | ',' :: s =>
      let (items, s) ← items? fuel s
      some (item :: items, s)
    | ']' :: s => some ([item], s)
    | _ => none

/-- The fields of an object from the first one on, and what follows the closing brace. -/
def fields? : Nat → List Char → Option (List (String × Json) × List Char)
  | 0, _ => none
  | fuel + 1, s =>
    match skipSpace s with
    | '"' :: s => do
      let (key, s) ← textRest? half (s.length + 1) s
      match skipSpace s with
      | ':' :: s =>
        let (value, s) ← value? fuel (skipSpace s)
        match skipSpace s with
        | ',' :: s =>
          let (fields, s) ← fields? fuel s
          some ((String.ofList key, value) :: fields, s)
        | '\x7d' :: s => some ([(String.ofList key, value)], s)
        | _ => none
      | _ => none
    | _ => none

end

/-- Reads a text that is one JSON value. -/
def readWith? (text : String) : Option Json := do
  let s := text.toList
  let (value, rest) ← value? half (s.length + 1) (skipSpace s)
  if (skipSpace rest).isEmpty then some value else none

/-- Reads a text that is one JSON value, with the replacement character for halves. -/
def read? (text : String) : Option Json :=
  readWith? (fun _ => '\uFFFD') text

end DiagramBridge.Json
