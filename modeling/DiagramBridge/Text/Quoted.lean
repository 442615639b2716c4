import DiagramBridge.Text.Blank
import DiagramBridge.Text.PrintableTable
import DiagramBridge.Text.Word

/-!
# Quoted texts

Messages show a text between quotation marks with everything invisible spelled out. Apostrophes
are the marks, unless the text has an apostrophe and no double quote. The mark in use and the
backslash are escaped by a backslash; tab, line feed and carriage return have letters of their own;
any other character that cannot be shown is written by its code point in two, four or eight
hexadecimal digits, whichever is the least that suffices.
-/

namespace DiagramBridge.Text

/-- A character that can be shown as it is. -/
def isPrintable (c : Char) : Bool :=
  if c.toNat < 0x80 then 32 ≤ c.toNat && c.toNat < 127 else inRanges printableRanges c.toNat

/-- A character as it stands in a quoted text. -/
def quoteChar (mark c : Char) : List Char :=
  if c = mark || c = '\\' then ['\\', c]
  else if c = '\t' then ['\\', 't']
  else if c = '\n' then ['\\', 'n']
  else if c = '\r' then ['\\', 'r']
  else if isPrintable c then [c]
  else if c.toNat < 0x100 then '\\' :: 'x' :: hexDigits 2 c.toNat
  else if c.toNat < 0x10000 then '\\' :: 'u' :: hexDigits 4 c.toNat
  else '\\' :: 'U' :: hexDigits 8 c.toNat

/-- A text between quotation marks. -/
def quoted (s : List Char) : List Char :=
  let mark := if s.contains '\'' && !s.contains '"' then '"' else '\''
  mark :: s.flatMap (quoteChar mark) ++ [mark]

end DiagramBridge.Text
