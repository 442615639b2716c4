import DiagramBridge.Codec.Inflate

/-!
# Containers of deflated streams

A deflated stream can stand between a header and a checksum. There are two such containers. In the
first one bytes may follow and are passed over; the second one is a row of members, between and
behind which only zeros may stand. Each has a sum of its own that tells whether bytes were changed.
-/

/-! ## Checksums -/

namespace DiagramBridge.Codec.Checksum

/-- The sum of the bytes and the sum of those sums, each by the greatest prime of sixteen bits. -/
def adler32 (bytes : List UInt8) : Nat :=
  let sums := bytes.foldl (fun (a, b) byte =>
    let a := (a + byte.toNat) % 65521
    (a, (b + a) % 65521)) (1, 0)
  sums.2 * 65536 + sums.1

/-- One bit of the division by the polynomial of the cyclic redundancy check. -/
def crcStep (r : UInt32) : UInt32 :=
  if r % 2 = 1 then 0xEDB88320 ^^^ (r / 2) else r / 2

/-- One byte of the division. -/
def crcByte (r : UInt32) (byte : UInt8) : UInt32 :=
  (List.range 8).foldl (fun r _ => crcStep r) (r ^^^ byte.toUInt32)

/-- The remainder of the cyclic redundancy check in thirty-two bits. -/
def crc32 (bytes : List UInt8) : Nat :=
  (bytes.foldl crcByte 0xFFFFFFFF ^^^ 0xFFFFFFFF).toNat

end DiagramBridge.Codec.Checksum

/-! ## Containers -/

namespace DiagramBridge.Codec.Container

/-- A number whose bytes come with the greatest first. -/
def bigEndian (bytes : List UInt8) : Nat :=
  bytes.foldl (fun n b => 256 * n + b.toNat) 0

/-- A number whose bytes come with the least first. -/
def littleEndian (bytes : List UInt8) : Nat :=
  bigEndian bytes.reverse

/-- What follows a number of bytes, if there are so many. -/
def skip? (n : Nat) (bytes : List UInt8) : Option (List UInt8) :=
  if n ≤ bytes.length then some (bytes.drop n) else none

/-- The first `n` bytes and what follows them, if there are so many. -/
def take? (n : Nat) (bytes : List UInt8) : Option (List UInt8 × List UInt8) :=
  if n ≤ bytes.length then some (bytes.splitAt n) else none

/-- Whether two bytes can stand in front of a stream: they name the method and a window that is not
too large, ask for no dictionary, and are divisible by 31 as a number. -/
def isZlibHeader (method flags : UInt8) : Bool :=
  let m := method.toNat
  let f := flags.toNat
  (256 * m + f) % 31 = 0 && m % 16 = 8 && m / 16 ≤ 7 && f / 32 % 2 = 0

/-- The bytes of a stream in a container with a two-byte header. -/
def zlib? (bytes : List UInt8) : Option (List UInt8) :=
  match bytes with
  | method :: flags :: rest =>
    if isZlibHeader method flags then do
      let (output, rest) ← Inflate.inflate? rest
      let (sum, _) ← take? 4 rest
      if bigEndian sum = Checksum.adler32 output then some output else none
    else none
  | _ => none

/-- What follows the first zero. Without a zero nothing follows. -/
def afterZero (bytes : List UInt8) : List UInt8 :=
  (bytes.dropWhile (· != 0)).drop 1

/-- What follows the header of a member, if one stands there. The header may have further fields, a
name and a comment, each announced by a flag. -/
def afterMemberHeader? (bytes : List UInt8) : Option (List UInt8) :=
  match bytes with
  | 0x1F :: 0x8B :: 8 :: flags :: rest => do
    let has := fun n => flags.toNat.testBit n
    let rest ← skip? 6 rest
    let rest ←
      if has 2 then do
        let (length, rest) ← take? 2 rest
        skip? (littleEndian length) rest
      else some rest
    let rest := if has 3 then afterZero rest else rest
    let rest := if has 4 then afterZero rest else rest
    if has 1 then skip? 2 rest else some rest
  | _ => none

/-- The bytes of a member and what follows it. -/
def member? (bytes : List UInt8) : Option (List UInt8 × List UInt8) := do
  let rest ← afterMemberHeader? bytes
  let (output, rest) ← Inflate.inflate? rest
  let (sum, rest) ← take? 4 rest
  let (length, rest) ← take? 4 rest
  if littleEndian sum = Checksum.crc32 output ∧ littleEndian length = output.length % 0x100000000
  then some (output, rest)
  else none

/-- The bytes of a row of members. Every member takes a byte at least. -/
def members : Nat → List UInt8 → Option (List UInt8)
  | _, [] => some []
  | 0, _ => none
  | fuel + 1, bytes => do
    let (output, rest) ← member? bytes
    let others ← members fuel (rest.dropWhile (· == 0))
    some (output ++ others)

/-- The bytes of all members of a container. -/
def gzip? (bytes : List UInt8) : Option (List UInt8) :=
  members bytes.length bytes

end DiagramBridge.Codec.Container
