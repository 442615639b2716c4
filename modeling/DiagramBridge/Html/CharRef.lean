import DiagramBridge.Html.EntityTable
import DiagramBridge.Text.Rewrite
import DiagramBridge.Text.Word

/-!
# Character references of HTML

An ampersand followed by a number sign and digits, or by a name, stands for one or two characters.
The semicolon at the end may be missing. Of a name that is not in the table the longest beginning
that is there counts, and the rest of the name stays; where no beginning is there either, nothing is
replaced. Numbers follow the rules of the standard: the controls of one old code page are read as
the characters of that page, and numbers of no character become the replacement character or
nothing. What is written into an element needs three names only.
-/

namespace DiagramBridge.Html

open Text

/-! ## Writing -/

/-- A character as text of an HTML element: the characters of markup are written by name. -/
def escapeChar (c : Char) : List Char :=
  if c = '&' then "&amp;".toList
  else if c = '<' then "&lt;".toList
  else if c = '>' then "&gt;".toList
  else [c]

/-- A text inside an HTML element. -/
def escape (s : List Char) : List Char :=
  s.flatMap escapeChar

/-! ## Reading -/

/-- The numbers that stand for another character than their own. -/
def renumbered : List (Nat × Nat) :=
  [(0x00, 0xFFFD), (0x80, 0x20AC), (0x82, 0x201A), (0x83, 0x0192), (0x84, 0x201E), (0x85, 0x2026),
    (0x86, 0x2020), (0x87, 0x2021), (0x88, 0x02C6), (0x89, 0x2030), (0x8A, 0x0160),
    (0x8B, 0x2039), (0x8C, 0x0152), (0x8E, 0x017D), (0x91, 0x2018), (0x92, 0x2019),
    (0x93, 0x201C), (0x94, 0x201D), (0x95, 0x2022), (0x96, 0x2013), (0x97, 0x2014),
    (0x98, 0x02DC), (0x99, 0x2122), (0x9A, 0x0161), (0x9B, 0x203A), (0x9C, 0x0153),
    (0x9E, 0x017E), (0x9F, 0x0178)]

/-- The numbers of controls and noncharacters that stand for nothing. -/
def isDropped (n : Nat) : Bool :=
  (1 ≤ n && n ≤ 8) || n == 0xB || (0xE ≤ n && n ≤ 0x1F) || n == 0x7F ||
    (0xFDD0 ≤ n && n ≤ 0xFDEF) || n % 0x10000 ≥ 0xFFFE

/-- What a number stands for. -/
def numbered (n : Nat) : List Char :=
  match renumbered.lookup n with
  | some m => [Char.ofNat m]
  | none =>
    if (0xD800 ≤ n && n < 0xE000) || n > 0x10FFFF then ['\uFFFD']
    else if isDropped n then []
    else [Char.ofNat n]

/-- What a name stands for, if it is in the table. -/
def named? (name : List Char) : Option (List Char) :=
  let name := String.ofList name
  ((markupEntities.lookup name).or (otherEntities.lookup name)).map (·.map Char.ofNat)

/-- Looks up the first `n` characters of a name, then the first `n - 1`, and so on down to two. -/
def longestNamed? (name : List Char) : Nat → Option (List Char)
  | 0 | 1 => none
  | n + 1 =>
    match named? (name.take (n + 1)) with
    | some text => some (text ++ name.drop (n + 1))
    | none => longestNamed? name n

/-- One if a semicolon comes next, else zero. -/
def semicolonWidth : List Char → Nat
  | ';' :: _ => 1
  | _ => 0

/-- The reference by decimal number behind `&#`: its width behind the ampersand and its text. -/
def decimalRef? (s : List Char) : Option (Nat × List Char) :=
  let (ds, rest) := s.span isAsciiDigit
  if ds.isEmpty then none
  else some (1 + ds.length + semicolonWidth rest, numbered (digitsValue 10 ds))

/-- The reference by hexadecimal number behind `&#`. -/
def hexRef? (s : List Char) : Option (Nat × List Char) :=
  match s with
  | x :: s =>
    if x = 'x' || x = 'X' then
      let (ds, rest) := s.span isHexDigit
      if ds.isEmpty then none
      else some (2 + ds.length + semicolonWidth rest, numbered (digitsValue 16 ds))
    else none
  | [] => none

/-- A character that can belong to a name. -/
def isNameChar (c : Char) : Bool :=
  !"\t\n\x0c <&#;".toList.contains c

/-- The longest name that is looked up, without its semicolon. -/
def maxNameLength : Nat := 32

/-- The reference by name behind an ampersand. A name that stands for nothing is left as it is. -/
def namedRef? (s : List Char) : Option (Nat × List Char) :=
  let stem := (s.takeWhile isNameChar).take maxNameLength
  if stem.isEmpty then none
  else
    let name := stem ++ (s.drop stem.length).take (semicolonWidth (s.drop stem.length))
    let text :=
      match named? name with
      | some text => text
      | none => (longestNamed? name (name.length - 1)).getD ('&' :: name)
    some (name.length, text)

/-- The rule that replaces a character reference by what it stands for. -/
def charRef : Rule
  | '&' :: '#' :: s => (decimalRef? s).or (hexRef? s)
  | '&' :: s => namedRef? s
  | _ => none

/-- A text with its character references replaced. -/
def unescape (s : List Char) : List Char :=
  rewrite charRef s

end DiagramBridge.Html
