import DiagramBridge.Codec.Deflate
import DiagramBridge.Codec.Inflate
import Mathlib.Tactic.Common

/-!
# Deflating and inflating

A block of bytes as they are is read back as one step of the reader of blocks: its first byte says
whether it is the last one and that it holds bytes as they are, the next four give the number of
bytes twice. A stream is a row of such blocks, so the reader comes back with all bytes and stands
behind the stream, whatever follows it there.
-/

namespace DiagramBridge.Codec.Deflate

open Inflate

/-- The number in two bytes. -/
theorem toNat_twoBytes {n : Nat} (h : n ≤ maxBlock) :
    (UInt8.ofNat (n % 256)).toNat + 256 * (UInt8.ofNat (n / 256)).toNat = n := by
  have hmax : maxBlock = 0xFFFF := rfl
  rw [UInt8.toNat_ofNat', UInt8.toNat_ofNat']
  omega

/-- The bits of the first byte, and those that are left of it. -/
theorem bit?_blockHead (isLast : Bool) (bytes : List UInt8) :
    (Bits.ofBytes ((if isLast then 1 else 0) :: bytes)).bit? =
      some (isLast, ⟨List.replicate 7 false, bytes⟩) := by
  cases isLast with
  | false => rfl
  | true => rfl

/-- The bytes behind the first byte of a block are read up to the end of the block. -/
theorem stored_block {bytes : List UInt8} (h : bytes.length ≤ maxBlock) (output : Array UInt8)
    (started : List Bool) (rest : List UInt8) :
    stored ⟨output, started,
        twoBytes bytes.length ++ twoBytes (maxBlock - bytes.length) ++ bytes ++ rest⟩ =
      some ⟨output ++ bytes.toArray, .ofBytes rest⟩ := by
  have hlength := toNat_twoBytes h
  have hcomplement := toNat_twoBytes (Nat.sub_le maxBlock bytes.length)
  have hsum : bytes.length + (maxBlock - bytes.length) = 0xFFFF := Nat.add_sub_cancel' h
  have hbytes : bytes.length ≤ (bytes ++ rest).length := by
    rw [List.length_append]
    exact Nat.le_add_right _ _
  simp only [stored, Bits.align, twoBytes, List.cons_append, List.nil_append, hlength, hcomplement]
  rw [if_pos ⟨hsum, hbytes⟩, List.take_left, List.drop_left]

/-- One block is one step of the reader of blocks. -/
theorem blocks_storedBlock (isLast : Bool) {bytes : List UInt8} (h : bytes.length ≤ maxBlock)
    (fuel : Nat) (output : Array UInt8) (rest : List UInt8) :
    blocks (fuel + 1) ⟨output, .ofBytes (storedBlock isLast bytes ++ rest)⟩ =
      if isLast then some ⟨output ++ bytes.toArray, .ofBytes rest⟩
      else blocks fuel ⟨output ++ bytes.toArray, .ofBytes rest⟩ := by
  have hkind (r : List UInt8) : Bits.number? 2 ⟨List.replicate 7 false, r⟩ =
      some (0, ⟨List.replicate 5 false, r⟩) := rfl
  have hstored := stored_block h output (List.replicate 5 false) rest
  rw [blocks, storedBlock, List.cons_append, List.cons_append, List.cons_append]
  simp only [bit?_blockHead, Option.bind_eq_bind, Option.bind_some, hkind]
  rw [hstored]
  rfl

theorem length_storedBlock_pos (isLast : Bool) (bytes : List UInt8) :
    0 < (storedBlock isLast bytes).length :=
  Nat.zero_lt_succ _

/-- The reader of blocks has as many steps as the stream has bytes, and takes one for a block. -/
theorem blocks_deflate (bytes rest : List UInt8) {fuel : Nat} (output : Array UInt8)
    (hfuel : (deflate bytes).length ≤ fuel) :
    blocks fuel ⟨output, .ofBytes (deflate bytes ++ rest)⟩ =
      some ⟨output ++ bytes.toArray, .ofBytes rest⟩ := by
  induction bytes using deflate.induct generalizing fuel output with
  | case1 bytes hshort =>
      rw [deflate, if_pos hshort] at hfuel ⊢
      have hpos := length_storedBlock_pos true bytes
      obtain ⟨n, rfl⟩ : ∃ n, fuel = n + 1 := Nat.exists_eq_succ_of_ne_zero (by omega)
      rw [blocks_storedBlock true hshort, if_pos rfl]
  | case2 bytes hlong ih =>
      rw [deflate, if_neg hlong] at hfuel ⊢
      have hpos := length_storedBlock_pos false (bytes.take maxBlock)
      rw [List.length_append] at hfuel
      obtain ⟨n, rfl⟩ : ∃ n, fuel = n + 1 := Nat.exists_eq_succ_of_ne_zero (by omega)
      have hfull : (bytes.take maxBlock).length ≤ maxBlock := List.length_take_le _ _
      have houtput : output ++ (bytes.take maxBlock).toArray ++ (bytes.drop maxBlock).toArray =
          output ++ bytes.toArray := by
        rw [Array.append_assoc, List.append_toArray (bytes.take _), List.take_append_drop]
      rw [List.append_assoc, blocks_storedBlock false hfull, if_neg Bool.false_ne_true,
        ih _ (by omega), houtput]

theorem inflate?_deflate (bytes rest : List UInt8) :
    inflate? (deflate bytes ++ rest) = some (bytes, rest) := by
  have hfuel : (deflate bytes).length ≤ 8 * (deflate bytes ++ rest).length := by
    rw [List.length_append]
    omega
  rw [inflate?, blocks_deflate bytes rest #[] hfuel]
  simp [Bits.align, Bits.ofBytes]

end DiagramBridge.Codec.Deflate
