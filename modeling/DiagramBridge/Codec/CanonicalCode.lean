/-!
# Canonical codes

A code gives every symbol a row of bits, none of which begins another. In a canonical code the
lengths of the rows decide everything: shorter rows come first, and rows of one length go up with
the symbols. A code is complete when every row of bits can be read.

A row of bytes is read bit by bit, the least bit of every byte first. What is left of the byte that
has been started is kept beside the bytes that have not, so that a reader can go on at the next byte.
-/

namespace DiagramBridge.Codec

/-! ## Bits of bytes -/

/-- Bits still to be read: the rest of a byte and the bytes after it. -/
structure Bits where
  rest : List Bool
  bytes : List UInt8
  deriving DecidableEq

namespace Bits

/-- All bits of some bytes. -/
def ofBytes (bytes : List UInt8) : Bits := ⟨[], bytes⟩

/-- The bits of a byte, the least first. -/
def ofByte (b : UInt8) : List Bool :=
  (List.range 8).map b.toNat.testBit

/-- The number of bits left. -/
def size (s : Bits) : Nat :=
  s.rest.length + 8 * s.bytes.length

/-- The next bit. -/
def bit? (s : Bits) : Option (Bool × Bits) :=
  match s.rest, s.bytes with
  | b :: rest, bytes => some (b, ⟨rest, bytes⟩)
  | [], byte :: bytes =>
    match ofByte byte with
    | b :: rest => some (b, ⟨rest, bytes⟩)
    | [] => none
  | [], [] => none

/-- The number written by the next `n` bits, the least first. -/
def number? : Nat → Bits → Option (Nat × Bits)
  | 0, s => some (0, s)
  | n + 1, s => do
    let (b, s) ← s.bit?
    let (value, s) ← number? n s
    some (b.toNat + 2 * value, s)

/-- What follows the byte that has been started. -/
def align (s : Bits) : Bits := ⟨[], s.bytes⟩

end Bits

/-! ## Codes -/

/-- The number of symbols for each length from one to fifteen, and the symbols in order of their
rows. -/
structure CanonicalCode where
  counts : List Nat
  symbols : Array Nat

namespace CanonicalCode

/-- The longest row of bits that a code may have. -/
def maxLength : Nat := 15

/-- The code in which each symbol has a row of the given length. Symbols of length zero have none. -/
def ofLengths (lengths : List Nat) : CanonicalCode :=
  let ofLength := fun n => (lengths.zipIdx.filter (·.1 == n)).map (·.2)
  let groups := (List.range maxLength).map fun n => ofLength (n + 1)
  ⟨groups.map List.length, groups.flatten.toArray⟩

/-- What is left of the rows of bits after those of each length have been given away; `none` when
there are not enough. -/
def leftOver? (available : Nat) : List Nat → Option Nat
  | [] => some available
  | count :: counts =>
    if 2 * available < count then none else leftOver? (2 * available - count) counts

/-- The number of rows of the greatest length that are not given away, if there are enough. -/
def unused? (c : CanonicalCode) : Option Nat :=
  leftOver? 1 c.counts

/-- Whether every row of bits can be read. -/
def isComplete (c : CanonicalCode) : Bool :=
  c.unused? == some 0

/-- Whether there is no symbol at all, or one with a row of a single bit. -/
def isTrivial (c : CanonicalCode) : Bool :=
  c.symbols.isEmpty || (c.symbols.size == 1 && c.counts.head? == some 1)

/-- Reads a symbol, one length after the other. `value` is the number of the bits so far, `first`
that of the first row of the length, and `index` the place of its symbol. -/
def readFrom (symbols : Array Nat) (value first index : Nat) :
    List Nat → Bits → Option (Nat × Bits)
  | [], _ => none
  | count :: counts, s => do
    let (b, s) ← s.bit?
    let value := 2 * value + b.toNat
    let first := 2 * first
    if value < first + count then
      let symbol ← symbols[index + (value - first)]?
      some (symbol, s)
    else readFrom symbols value (first + count) (index + count) counts s

/-- Reads a symbol. -/
def read? (c : CanonicalCode) (s : Bits) : Option (Nat × Bits) :=
  readFrom c.symbols 0 0 0 c.counts s

end CanonicalCode

end DiagramBridge.Codec
