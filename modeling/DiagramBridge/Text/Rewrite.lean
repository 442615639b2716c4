/-!
# Rewriting texts

A rewriting rule looks at the text that starts at some position. Rewriting walks over a text from
the left; where the rule applies, the stretch it names is replaced and the walk goes on behind it,
elsewhere one character is copied. So stretches never overlap, and no replacement is looked at
again.
-/

namespace DiagramBridge.Text

/-- A rule sees a non-empty text. `some (n, new)` says that its first `n + 1` characters are
replaced by `new`; `none` says that the first character stays. -/
abbrev Rule := List Char → Option (Nat × List Char)

/-- Rewriting of a text whose first characters, as many as the number says, were replaced
already. -/
def rewriteAfter (rule : Rule) : Nat → List Char → List Char
  | _, [] => []
  | n + 1, _ :: s => rewriteAfter rule n s
  | 0, c :: s =>
    match rule (c :: s) with
    | some (n, new) => new ++ rewriteAfter rule n s
    | none => c :: rewriteAfter rule 0 s

/-- A text with every stretch replaced that the rule names. -/
def rewrite (rule : Rule) (s : List Char) : List Char :=
  rewriteAfter rule 0 s

/-- The rule that takes a stretch when the text behind it is known: it has as many characters as
the text has lost. -/
def stretch (s rest new : List Char) : Nat × List Char :=
  (s.length - rest.length - 1, new)

/-- The rule that replaces every occurrence of one text by another. -/
def literally (old new : List Char) : Rule := fun s =>
  (old.isPrefixOf? s).map fun rest => stretch s rest new

end DiagramBridge.Text
