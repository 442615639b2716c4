import DiagramBridge.Codec.CanonicalCode

/-!
# Inflating

A deflated stream consists of blocks. A block holds bytes as they are, or symbols in two canonical
codes, which are fixed or written at its front: a symbol stands for a byte, for a stretch that
occurred before, given by its length and its distance, or for the end of the block. A stream that
keeps to the rules inflates; any other is refused as a whole.
-/

namespace DiagramBridge.Codec.Inflate

/-- Bytes so far, and bits still to be read. -/
structure State where
  output : Array UInt8
  bits : Bits

/-- The least length and the number of further bits for each length symbol, from 257 on. -/
def lengthTable : List (Nat × Nat) :=
  [(3, 0), (4, 0), (5, 0), (6, 0), (7, 0), (8, 0), (9, 0), (10, 0), (11, 1), (13, 1), (15, 1),
    (17, 1), (19, 2), (23, 2), (27, 2), (31, 2), (35, 3), (43, 3), (51, 3), (59, 3), (67, 4),
    (83, 4), (99, 4), (115, 4), (131, 5), (163, 5), (195, 5), (227, 5), (258, 0)]

/-- The least distance and the number of further bits for each distance symbol. -/
def distanceTable : List (Nat × Nat) :=
  [(1, 0), (2, 0), (3, 0), (4, 0), (5, 1), (7, 1), (9, 2), (13, 2), (17, 3), (25, 3), (33, 4),
    (49, 4), (65, 5), (97, 5), (129, 6), (193, 6), (257, 7), (385, 7), (513, 8), (769, 8),
    (1025, 9), (1537, 9), (2049, 10), (3073, 10), (4097, 11), (6145, 11), (8193, 12), (12289, 12),
    (16385, 13), (24577, 13)]

/-- A number given by a symbol and the bits behind it. -/
def amount? (table : List (Nat × Nat)) (symbol : Nat) (s : Bits) : Option (Nat × Bits) := do
  let (base, extra) ← table[symbol]?
  let (more, s) ← s.number? extra
  some (base + more, s)

/-- Appends a stretch of the output once more, byte by byte, so that it may reach into itself. -/
def repeatBytes (distance : Nat) : Nat → Array UInt8 → Array UInt8
  | 0, output => output
  | n + 1, output => repeatBytes distance n (output.push (output.getD (output.size - distance) 0))

/-- Reads symbols to the end of a block. Every symbol takes a bit at least. -/
def symbols (literals distances : CanonicalCode) : Nat → State → Option State
  | 0, _ => none
  | fuel + 1, s => do
    let (symbol, bits) ← literals.read? s.bits
    if symbol < 256 then
      symbols literals distances fuel ⟨s.output.push (UInt8.ofNat symbol), bits⟩
    else if symbol = 256 then some ⟨s.output, bits⟩
    else
      let (length, bits) ← amount? lengthTable (symbol - 257) bits
      let (symbol, bits) ← distances.read? bits
      let (distance, bits) ← amount? distanceTable symbol bits
      if distance ≤ s.output.size then
        symbols literals distances fuel ⟨repeatBytes distance length s.output, bits⟩
      else none

/-- Reads the symbols of a block in two given codes. -/
def coded (literals distances : CanonicalCode) (s : State) : Option State :=
  symbols literals distances (s.bits.size + 1) s

/-- Bytes as they are: their number, its complement, and the bytes. -/
def stored (s : State) : Option State :=
  match s.bits.align.bytes with
  | a :: b :: c :: d :: bytes =>
    let length := a.toNat + 256 * b.toNat
    let complement := c.toNat + 256 * d.toNat
    if length + complement = 0xFFFF ∧ length ≤ bytes.length then
      some ⟨s.output ++ (bytes.take length).toArray, .ofBytes (bytes.drop length)⟩
    else none
  | _ => none

/-- The lengths of the fixed code of bytes and lengths. -/
def fixedLiteralLengths : List Nat :=
  List.replicate 144 8 ++ List.replicate 112 9 ++ List.replicate 24 7 ++ List.replicate 8 8

/-- The lengths of the fixed code of distances. -/
def fixedDistanceLengths : List Nat :=
  List.replicate 32 5

/-- The order in which the lengths of the code of lengths are written. -/
def lengthOrder : List Nat :=
  [16, 17, 18, 0, 8, 7, 9, 6, 10, 5, 11, 4, 12, 3, 13, 2, 14, 1, 15]

/-- The next `n` numbers of three bits. -/
def triples : Nat → Bits → Option (List Nat × Bits)
  | 0, s => some ([], s)
  | n + 1, s => do
    let (first, s) ← s.number? 3
    let (others, s) ← triples n s
    some (first :: others, s)

/-- Lengths given by the symbols of a code: a length, or a number of repetitions of the last length
or of zero. Exactly `count` lengths have to come out. They are collected in reverse. -/
def lengths (code : CanonicalCode) (count : Nat) : Nat → List Nat → Bits → Option (List Nat × Bits)
  | 0, _, _ => none
  | fuel + 1, found, s =>
    if found.length = count then some (found.reverse, s)
    else if count < found.length then none
    else do
      let (symbol, s) ← code.read? s
      match symbol with
      | 16 =>
        let last ← found.head?
        let (more, s) ← s.number? 2
        lengths code count fuel (List.replicate (3 + more) last ++ found) s
      | 17 =>
        let (more, s) ← s.number? 3
        lengths code count fuel (List.replicate (3 + more) 0 ++ found) s
      | 18 =>
        let (more, s) ← s.number? 7
        lengths code count fuel (List.replicate (11 + more) 0 ++ found) s
      | length => lengths code count fuel (length :: found) s

/-- Reads two codes and then symbols in them. -/
def described (s : State) : Option State := do
  let (literalCount, bits) ← s.bits.number? 5
  let (distanceCount, bits) ← bits.number? 5
  let (lengthCount, bits) ← bits.number? 4
  let literalCount := literalCount + 257
  let distanceCount := distanceCount + 1
  if 286 < literalCount ∨ 30 < distanceCount then none
  else
    let (written, bits) ← triples (lengthCount + 4) bits
    let pairs := lengthOrder.zip written
    let lengthCode :=
      CanonicalCode.ofLengths ((List.range 19).map fun n => (pairs.lookup n).getD 0)
    if !lengthCode.isComplete then none
    else
      let count := literalCount + distanceCount
      let (all, bits) ← lengths lengthCode count (count + 1) [] bits
      let literals := CanonicalCode.ofLengths (all.take literalCount)
      let distances := CanonicalCode.ofLengths (all.drop literalCount)
      if all[256]? = some 0 then none
      else if !(literals.isComplete || literals.isTrivial) then none
      else if !(distances.isComplete || distances.isTrivial) then none
      else coded literals distances ⟨s.output, bits⟩

/-- Reads blocks up to and with the one that is marked as the last. Every block takes three bits at
least. -/
def blocks : Nat → State → Option State
  | 0, _ => none
  | fuel + 1, s => do
    let (isLast, bits) ← s.bits.bit?
    let (kind, bits) ← bits.number? 2
    let s : State := ⟨s.output, bits⟩
    let s ←
      match kind with
      | 0 => stored s
      | 1 =>
        coded (.ofLengths fixedLiteralLengths) (.ofLengths fixedDistanceLengths) s
      | 2 => described s
      | _ => none
    if isLast then some s else blocks fuel s

/-- The bytes that a stream at the front of a row of bytes inflates to, and the bytes that follow the
stream. -/
def inflate? (bytes : List UInt8) : Option (List UInt8 × List UInt8) := do
  let s ← blocks (8 * bytes.length) ⟨#[], .ofBytes bytes⟩
  some (s.output.toList, s.bits.align.bytes)

end DiagramBridge.Codec.Inflate
