import DiagramBridge.Codec.Utf8
import DiagramBridge.Text.Word

/-!
# Percent-encoding

Letters, digits and a few marks stand for themselves; every byte of any other character is written
as a percent sign and two hexadecimal digits. Reading is lenient: a percent sign without two digits
stands for itself, a character beyond ASCII too, and bytes that make no character are marked.
-/

namespace DiagramBridge.Codec.Percent

open Text

/-- The characters that are written as they are. -/
def isUnreserved (c : Char) : Bool :=
  isAsciiLetter c || isAsciiDigit c || "-_.!~*'()".toList.contains c

/-- A hexadecimal digit with letters in upper case. -/
def upperHexDigit (n : Nat) : Char :=
  if n < 10 then Char.ofNat (48 + n) else Char.ofNat (55 + n)

/-- A byte behind a percent sign. -/
def encodeByte (b : UInt8) : List Char :=
  ['%', upperHexDigit (b.toNat / 16), upperHexDigit (b.toNat % 16)]

/-- A character, as it is or byte by byte. -/
def encodeChar (c : Char) : List Char :=
  if isUnreserved c then [c] else (Utf8.encodeChar c).flatMap encodeByte

/-- The percent-encoded form of a text. -/
def encode (s : List Char) : List Char :=
  s.flatMap encodeChar

/-- Reads a text after the bytes that made up what is pending. -/
def decodeFrom (p : Option Utf8.Pending) : List Char → List Char
  | [] => Utf8.patch (Utf8.finish p)
  | '%' :: a :: b :: s =>
    match hexValue? a, hexValue? b with
    | some x, some y =>
      let next := Utf8.step p (UInt8.ofNat (16 * x + y))
      Utf8.patch next.1 ++ decodeFrom next.2 s
    | _, _ =>
      let next := Utf8.step p (UInt8.ofNat '%'.toNat)
      Utf8.patch next.1 ++ decodeFrom next.2 (a :: b :: s)
  | c :: s =>
    if c.toNat < 0x80 then
      let next := Utf8.step p (UInt8.ofNat c.toNat)
      Utf8.patch next.1 ++ decodeFrom next.2 s
    else Utf8.patch (Utf8.finish p) ++ c :: decodeFrom none s

/-- The text of a percent-encoded form. -/
def decode (s : List Char) : List Char :=
  decodeFrom none s

end DiagramBridge.Codec.Percent
