import DiagramBridge.Text.Blank
import DiagramBridge.Text.Word

/-!
# Texts with loose halves

The escapes of a JSON text are code units, and one of them may be half of a surrogate pair whose
other half is missing. What is written so is no sequence of characters: it can be kept, searched and
taken apart like any other text, but it has no encoding.

Here a loose half is written as a private character, out of a block with as many characters as there
are halves. Like a half, a private character is neither a letter nor a digit nor white space, it has
no case, and it cannot be shown.
-/

namespace DiagramBridge

namespace Text

/-- The first code unit that is half of a pair. -/
def firstHalf : Nat := 0xD800

/-- The number of code units that are halves of pairs. -/
def halfCount : Nat := 0x800

/-- Where the blocks of private characters begin. -/
def halfBlocks : List Nat :=
  (List.range 64).map (0xF0000 + halfCount * ·)

def isInBlock (block : Nat) (c : Char) : Bool :=
  block ≤ c.toNat && c.toNat < block + halfCount

/-- The character that stands for a half. -/
def standIn (block unit : Nat) : Char :=
  Char.ofNat (block + (unit - firstHalf))

/-- A text as a log shows it, with an escape in the place of a half. -/
def spellHalves (block : Nat) (s : List Char) : List Char :=
  s.flatMap fun c =>
    if isInBlock block c then '\\' :: 'u' :: hexDigits 4 (firstHalf + (c.toNat - block)) else [c]

end Text

open Text

/-- A text in which the characters of a block, if it has one, stand for loose halves. -/
structure LooseText where
  text : String
  block : Option Nat
  deriving DecidableEq, Repr

namespace LooseText

/-- A text of characters. -/
def ofString (s : String) : LooseText := ⟨s, none⟩

/-- A text with loose halves if there are characters of the block in it. -/
def ofBlock (block : Nat) (s : String) : LooseText :=
  ⟨s, if s.toList.any (isInBlock block) then some block else none⟩

/-- Whether a text is one of characters, without loose halves. -/
def isWhole (t : LooseText) : Bool :=
  t.block.isNone

/-- Whether a loose half of one text has come into another one. -/
def leaksInto (t : LooseText) (s : String) : Bool :=
  t.block.any fun block => s.toList.any (isInBlock block)

end LooseText

end DiagramBridge
