import DiagramBridge.Text.CaseTable
import DiagramBridge.Text.Word

/-!
# Changing the case of a text

Case mapping works on whole texts, because one character may turn into several and because a
capital sigma becomes a different small letter at the end of a word. For ASCII it moves letters by
a fixed distance.

Keywords of a notation are matched without regard to case. There a character is compared on its
own, and a few characters beyond ASCII fold onto an ASCII letter: the dotless and the dotted i, the
long s and the Kelvin sign.
-/

namespace DiagramBridge.Text

/-- The lower-case form of an ASCII capital; any other character is left alone. -/
def asciiLower (c : Char) : Char :=
  if 'A' ≤ c && c ≤ 'Z' then Char.ofNat (c.toNat + 32) else c

/-- The upper-case form of a small ASCII letter; any other character is left alone. -/
def asciiUpper (c : Char) : Char :=
  if 'a' ≤ c && c ≤ 'z' then Char.ofNat (c.toNat - 32) else c

/-- What a code point above ASCII maps to, by a list of single moves and a list of exceptions. -/
def mapCase (specials : List (Nat × List Nat)) (runs : List CaseRun) (c : Char) : List Char :=
  match specials.lookup c.toNat with
  | some cs => cs.map Char.ofNat
  | none => [Char.ofNat ((runs.findSome? (·.image? c.toNat)).getD c.toNat)]

/-- The first of the following characters that is not passed over is a cased one. -/
def casedAhead (s : List Char) : Bool :=
  match s.dropWhile fun c => inRanges caseIgnorableRanges c.toNat with
  | [] => false
  | c :: _ => inRanges casedRanges c.toNat

/-- The lower-case form of a text whose neighbour on the left is a cased character iff
`casedBefore` holds. A capital sigma that follows a cased character and precedes none is final. -/
def lowerAfter (casedBefore : Bool) : List Char → List Char
  | [] => []
  | c :: s =>
    if c.toNat < 0x80 then
      asciiLower c :: lowerAfter
        (if isAsciiLetter c then true
         else if inRanges caseIgnorableRanges c.toNat then casedBefore
         else false) s
    else
      let casedHere :=
        if inRanges caseIgnorableRanges c.toNat then casedBefore
        else inRanges casedRanges c.toNat
      if c.toNat = 0x3A3 then
        Char.ofNat (if casedBefore && !casedAhead s then 0x3C2 else 0x3C3) ::
          lowerAfter casedHere s
      else
        mapCase lowerSpecials lowerRuns c ++ lowerAfter casedHere s

/-- The lower-case form of a text. -/
def lower (s : List Char) : List Char :=
  lowerAfter false s

/-- The upper-case form of a text. -/
def upper (s : List Char) : List Char :=
  s.flatMap fun c =>
    if c.toNat < 0x80 then [asciiUpper c] else mapCase upperSpecials upperRuns c

/-- The small ASCII letter that a character stands for in a keyword. -/
def foldLetter (c : Char) : Char :=
  if c.toNat < 0x80 then asciiLower c
  else if c.toNat = 0x130 || c.toNat = 0x131 then 'i'
  else if c.toNat = 0x17F then 's'
  else if c.toNat = 0x212A then 'k'
  else c

/-- What follows a keyword, given in small letters, at the front of a text; letter case is ignored. -/
def afterKeyword? : List Char → List Char → Option (List Char)
  | [], s => some s
  | _ :: _, [] => none
  | k :: ks, c :: s => if foldLetter c = k then afterKeyword? ks s else none

end DiagramBridge.Text
