import DiagramBridge.Text.Word

/-!
# Base64

Three bytes are four digits in base 64; one or two bytes left over are two or three digits, filled up
to four by equals signs. Reading is strict: nothing but digits, and behind them the equals signs
that fill up the last group. The bits that the last digit has too many are not looked at.
-/

namespace DiagramBridge.Codec.Base64

open Text

/-- The digits, by value. -/
def digits : List Char :=
  "ABCDEFGHIJKLMNOPQRSTUVWXYZabcdefghijklmnopqrstuvwxyz0123456789+/".toList

/-- The digit with the given value. -/
def digit (n : Nat) : Char :=
  digits.getD n 'A'

def digitValue? (c : Char) : Option Nat :=
  if 'A' ≤ c && c ≤ 'Z' then some (c.toNat - 65)
  else if 'a' ≤ c && c ≤ 'z' then some (c.toNat - 71)
  else if isAsciiDigit c then some (c.toNat + 4)
  else if c = '+' then some 62
  else if c = '/' then some 63
  else none

/-- The digits of a row of bytes, filled up by equals signs. -/
def encode : List UInt8 → List Char
  | [] => []
  | [a] => [digit (a.toNat / 4), digit (a.toNat % 4 * 16), '=', '=']
  | [a, b] =>
    [digit (a.toNat / 4), digit (a.toNat % 4 * 16 + b.toNat / 16), digit (b.toNat % 16 * 4), '=']
  | a :: b :: c :: r =>
    digit (a.toNat / 4) :: digit (a.toNat % 4 * 16 + b.toNat / 16) ::
      digit (b.toNat % 16 * 4 + c.toNat / 64) :: digit (c.toNat % 64) :: encode r

/-- The bytes of a row of digit values. -/
def bytesOf : List Nat → List UInt8
  | a :: b :: c :: d :: r =>
    UInt8.ofNat (a * 4 + b / 16) :: UInt8.ofNat (b % 16 * 16 + c / 4) ::
      UInt8.ofNat (c % 4 * 64 + d) :: bytesOf r
  | [a, b, c] => [UInt8.ofNat (a * 4 + b / 16), UInt8.ofNat (b % 16 * 16 + c / 4)]
  | [a, b] => [UInt8.ofNat (a * 4 + b / 16)]
  | [_] | [] => []

/-- Whether so many equals signs may stand behind so many digits. A full last group takes any
number. -/
def isPadding (digitCount padCount : Nat) : Bool :=
  match digitCount % 4 with
  | 0 => digitCount != 0 || padCount == 0
  | 2 => padCount == 2
  | 3 => padCount == 1
  | _ => false

/-- The bytes of a text in base 64. -/
def decode? (s : List Char) : Option (List UInt8) :=
  let (front, padding) := s.span (· != '=')
  if padding.all (· == '=') && isPadding front.length padding.length then
    (front.mapM digitValue?).map bytesOf
  else none

end DiagramBridge.Codec.Base64
