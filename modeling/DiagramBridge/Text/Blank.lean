/-!
# White space, words and lines

Texts are lists of characters here. White space is the Unicode class: it holds the no-break space
and the ideographic space, but neither the zero-width space nor the byte-order mark. Everything
that trims, splits into words or collapses a text is built from the one predicate `isBlank`, so a
collapsed text can be described by that predicate alone: its words, joined by single spaces.
-/

namespace DiagramBridge.Text

/-- White space: tab to carriage return, the four information separators, the space, the next-line
control, the no-break space, and the Unicode spaces and separators. -/
def isBlank (c : Char) : Bool :=
  let n := c.toNat
  (9 ≤ n && n ≤ 13) || (28 ≤ n && n ≤ 32) || n == 0x85 || n == 0xA0 || n == 0x1680 ||
    (0x2000 ≤ n && n ≤ 0x200A) || n == 0x2028 || n == 0x2029 || n == 0x202F || n == 0x205F ||
    n == 0x3000

/-- The text without the white space at its front. -/
def trimStart (s : List Char) : List Char :=
  s.dropWhile isBlank

/-- The text without the white space at its end. -/
def trimEnd (s : List Char) : List Char :=
  (s.reverse.dropWhile isBlank).reverse

/-- The text without the white space at either end. -/
def trim (s : List Char) : List Char :=
  trimEnd (trimStart s)

/-- The text without the given character at its end, however often it stands there. -/
def trimEndChar (c : Char) (s : List Char) : List Char :=
  (s.reverse.dropWhile (· == c)).reverse

/-- The parts of a text between line feeds. There is always one more part than line feeds. -/
def lines (s : List Char) : List (List Char) :=
  s.splitOn '\n'

/-- Lines put back together, a line feed between each two. -/
def unlines (ls : List (List Char)) : List Char :=
  List.intercalate ['\n'] ls

/-- A text with line feeds for line breaks of every kind. -/
def unifyLineBreaks : List Char → List Char
  | [] => []
  | '\r' :: '\n' :: s => '\n' :: unifyLineBreaks s
  | '\r' :: s => '\n' :: unifyLineBreaks s
  | c :: s => c :: unifyLineBreaks s

/-- The longest stretches of a text that hold no white space. -/
def words (s : List Char) : List (List Char) :=
  (s.splitOnP isBlank).filter (· ≠ [])

/-- The words of a text, joined by single spaces. -/
def collapse (s : List Char) : List Char :=
  List.intercalate [' '] (words s)

/-- A function on texts, at the level of strings. -/
def onChars (f : List Char → List Char) (s : String) : String :=
  String.ofList (f s.toList)

@[simp] theorem toList_onChars (f : List Char → List Char) (s : String) :
    (onChars f s).toList = f s.toList := by
  simp [onChars]

@[simp] theorem trimStart_nil : trimStart [] = [] := rfl

theorem trimStart_cons_of_blank {c : Char} {s : List Char} (h : isBlank c = true) :
    trimStart (c :: s) = trimStart s := by
  simp [trimStart, h]

theorem trimStart_cons_of_not_blank {c : Char} {s : List Char} (h : isBlank c = false) :
    trimStart (c :: s) = c :: s := by
  simp [trimStart, h]

end DiagramBridge.Text
