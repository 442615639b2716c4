/-!
# Deflating

Any row of bytes is a deflated stream when it is cut into blocks of bytes as they are. That is all
that a page needs: readers inflate it like any other stream.
-/

namespace DiagramBridge.Codec.Deflate

/-- The number of bytes that a block can hold. -/
def maxBlock : Nat := 0xFFFF

/-- A number in two bytes, the least first. -/
def twoBytes (n : Nat) : List UInt8 :=
  [UInt8.ofNat (n % 256), UInt8.ofNat (n / 256)]

/-- A block of bytes as they are. -/
def storedBlock (isLast : Bool) (bytes : List UInt8) : List UInt8 :=
  (if isLast then 1 else 0) :: twoBytes bytes.length ++ twoBytes (maxBlock - bytes.length) ++ bytes

/-- A row of bytes as a stream of blocks. Every block but the last is full. -/
def deflate (bytes : List UInt8) : List UInt8 :=
  if bytes.length ≤ maxBlock then storedBlock true bytes
  else storedBlock false (bytes.take maxBlock) ++ deflate (bytes.drop maxBlock)
termination_by bytes.length
decreasing_by
  rw [List.length_drop]
  have : maxBlock = 0xFFFF := rfl
  omega

end DiagramBridge.Codec.Deflate
