/-!
# UTF-8

Characters as bytes and back. Reading goes byte by byte: between two characters nothing is pending;
inside one it is known how many bytes are to come, in which range the next one has to lie, and what
the bytes so far amount to. Bytes that make no character give one gap for every stretch that could
have begun one, so that a reader may either refuse the text or show where something is missing.
-/

namespace DiagramBridge.Codec.Utf8

/-- A byte that continues a character, with six bits of it. -/
def continuation (n : Nat) : UInt8 :=
  UInt8.ofNat (0x80 + n % 0x40)

def encodeChar (c : Char) : List UInt8 :=
  let n := c.toNat
  if n < 0x80 then [UInt8.ofNat n]
  else if n < 0x800 then [UInt8.ofNat (0xC0 + n / 0x40), continuation n]
  else if n < 0x10000 then
    [UInt8.ofNat (0xE0 + n / 0x1000), continuation (n / 0x40), continuation n]
  else
    [UInt8.ofNat (0xF0 + n / 0x40000), continuation (n / 0x1000), continuation (n / 0x40),
      continuation n]

/-- The bytes of a text. -/
def encode (s : List Char) : List UInt8 :=
  s.flatMap encodeChar

/-- A character that has begun: `missing` bytes follow after the next one, which lies between `low`
and `high`, and the bytes so far have the value `value`. -/
structure Pending where
  missing : Nat
  low : Nat := 0x80
  high : Nat := 0xBF
  value : Nat
  deriving DecidableEq

/-- What a byte at the front of a character says: the whole character, its beginning, or nothing. -/
inductive Lead where
  | whole (c : Char)
  | begun (p : Pending)
  | invalid
  deriving DecidableEq

/-- The reading of a byte at the front of a character. The ranges for the second byte leave out
forms that are longer than need be, surrogates, and values beyond the last character. -/
def lead (b : UInt8) : Lead :=
  let n := b.toNat
  if n < 0x80 then .whole (Char.ofNat n)
  else if n < 0xC2 then .invalid
  else if n < 0xE0 then .begun { missing := 0, value := n - 0xC0 }
  else if n = 0xE0 then .begun { missing := 1, low := 0xA0, value := 0 }
  else if n = 0xED then .begun { missing := 1, high := 0x9F, value := n - 0xE0 }
  else if n < 0xF0 then .begun { missing := 1, value := n - 0xE0 }
  else if n = 0xF0 then .begun { missing := 2, low := 0x90, value := 0 }
  else if n < 0xF4 then .begun { missing := 2, value := n - 0xF0 }
  else if n = 0xF4 then .begun { missing := 2, high := 0x8F, value := n - 0xF0 }
  else .invalid

/-- Reads a byte where nothing is pending. A gap is written as `none`. -/
def start (b : UInt8) : List (Option Char) × Option Pending :=
  match lead b with
  | .whole c => ([some c], none)
  | .begun p => ([], some p)
  | .invalid => ([none], none)

/-- Reads a byte. One that cannot continue what is pending leaves a gap and begins anew. -/
def step : Option Pending → UInt8 → List (Option Char) × Option Pending
  | none, b => start b
  | some p, b =>
    let n := b.toNat
    if p.low ≤ n ∧ n ≤ p.high then
      let value := p.value * 0x40 + n % 0x40
      match p.missing with
      | 0 => ([some (Char.ofNat value)], none)
      | missing + 1 => ([], some { missing, value })
    else (none :: (start b).1, (start b).2)

/-- What is left at the end: a character that was not finished is a gap. -/
def finish : Option Pending → List (Option Char)
  | none => []
  | some _ => [none]

/-- Reads bytes after those that made up what is pending. -/
def decodeFrom (p : Option Pending) : List UInt8 → List (Option Char)
  | [] => finish p
  | b :: bs => (step p b).1 ++ decodeFrom (step p b).2 bs

/-- The characters and gaps of a row of bytes. -/
def decode (bs : List UInt8) : List (Option Char) :=
  decodeFrom none bs

/-- The text of a row of bytes without gaps. -/
def decode? (bs : List UInt8) : Option (List Char) :=
  (decode bs).mapM id

/-- The character that stands for a gap. -/
def replacement : Char := '\ufffd'

/-- Characters with a mark for every gap. -/
def patch (cs : List (Option Char)) : List Char :=
  cs.map (·.getD replacement)

end DiagramBridge.Codec.Utf8
