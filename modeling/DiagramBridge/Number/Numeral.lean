import DiagramBridge.Number.Binary64
import DiagramBridge.Text.Blank
import DiagramBridge.Text.Word

/-!
# Reading numerals

Numerals are read leniently: white space may surround them, the decimal digits of any script count,
and an underscore may separate two digits. A real numeral has digits with at most one point among
or around them and an optional exponent, or is one of the words for an infinity or for no number.
-/

namespace DiagramBridge.Numeral

open Text

/-- A character of a numeral with a digit of any script replaced by the ASCII digit. What is
neither ASCII nor a digit becomes a character that no numeral has. -/
def plainChar (c : Char) : Char :=
  if c.toNat < 0x80 then c
  else
    match decimalValue? c with
    | some v => Char.ofNat (48 + v)
    | none => if isBlank c then ' ' else '?'

/-- The text with its digits in ASCII and without surrounding white space. -/
def plain (s : List Char) : List Char :=
  trim (s.map plainChar)

/-- Removes the underscores of a numeral, each of which has to stand between two digits.
`afterDigit` says whether a digit stands on the left. -/
def joinDigits? (afterDigit : Bool) : List Char → Option (List Char)
  | [] => some []
  | '_' :: c :: s =>
    if afterDigit && isAsciiDigit c then (joinDigits? true s).map (c :: ·) else none
  | ['_'] => none
  | c :: s => (joinDigits? (isAsciiDigit c) s).map (c :: ·)

/-- The value of a row of ASCII digits, continuing a number read so far. -/
def digitsFrom (n : Nat) (ds : List Char) : Nat :=
  ds.foldl (fun n c => 10 * n + (c.toNat - 48)) n

/-- A sign at the front, `true` for minus, and what follows it. -/
def takeSign : List Char → Bool × List Char
  | '-' :: s => (true, s)
  | '+' :: s => (false, s)
  | s => (false, s)

/-- The largest number of digits that an integer numeral may have. -/
def maxIntegerDigits : Nat := 4300

/-- An integer numeral. -/
def readInt? (s : List Char) : Option Int := do
  let s ← joinDigits? false (plain s)
  let (negative, ds) := takeSign s
  if ds.isEmpty || !ds.all isAsciiDigit || ds.length > maxIntegerDigits then none
  else
    let n := digitsFrom 0 ds
    some (if negative then -(n : Int) else n)

/-- The exponent of a real numeral: nothing, or a letter `e` and an integer. -/
def readExponent? : List Char → Option Int
  | [] => some 0
  | c :: s =>
    if c = 'e' || c = 'E' then
      let (negative, ds) := takeSign s
      if ds.isEmpty || !ds.all isAsciiDigit then none
      else some (Binary64.signed negative (digitsFrom 0 ds))
    else none

/-- The digits, point and exponent of a real numeral. -/
def readUnsigned? (negative : Bool) (s : List Char) : Option Binary64 := do
  let (whole, rest) := s.span isAsciiDigit
  let (fraction, rest) :=
    match rest with
    | '.' :: rest => rest.span isAsciiDigit
    | rest => ([], rest)
  if whole.isEmpty && fraction.isEmpty then none
  else
    let e ← readExponent? rest
    some (Binary64.ofDecimal negative (digitsFrom (digitsFrom 0 whole) fraction)
      (e - fraction.length))

/-- A word for a number that has no digits, in any letter case. -/
def readWord? (negative : Bool) (s : List Char) : Option Binary64 :=
  let w := s.map fun c => if 'A' ≤ c && c ≤ 'Z' then Char.ofNat (c.toNat + 32) else c
  if w = "inf".toList || w = "infinity".toList then some (.infinite negative)
  else if w = "nan".toList then some .nan
  else none

/-- A real numeral. -/
def readReal? (s : List Char) : Option Binary64 := do
  let s ← joinDigits? false (plain s)
  let (negative, s) := takeSign s
  (readWord? negative s).or (readUnsigned? negative s)

end DiagramBridge.Numeral
