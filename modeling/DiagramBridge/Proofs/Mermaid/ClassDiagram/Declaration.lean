import DiagramBridge.Mermaid.ClassDiagram.Reader
import DiagramBridge.Proofs.Text.Blank

/-!
# Reading written declarations

A declaration is an id, perhaps a label between brackets and quotes, and perhaps an opening brace. A
label without quotes is found whole, whatever brackets and braces are in it: before its end nothing
looks like the end of a declaration, for the quote at its end is still to come.
-/

namespace DiagramBridge.Mermaid.ClassDiagram

open Text

/-- No quote stands behind a declaration. -/
theorem bodyMark?_eq_none {s : List Char} (h : '"' ∈ s) : bodyMark? s = none := by
  have hmem (t : List Char) (ht : '"' ∈ t) : '"' ∈ trimStart t := mem_trimStart (by decide) ht
  have hbehind (c : Char) (t : List Char) (hc : '"' ≠ c) (ht : '"' ∈ c :: t) : '"' ∈ trimStart t :=
    hmem t ((List.mem_cons.1 ht).resolve_left hc)
  have hend (t : List Char) (b : Bool) (ht : '"' ∈ t) :
      (if t.isEmpty then some b else none) = none := by
    rw [if_neg (by simpa using List.ne_nil_of_mem ht)]
  have hstart := hmem s h
  -- Either brace may be there or not; the quote is still to come behind each that is.
  rw [bodyMark?]
  dsimp only
  split
  · next t hclosing =>
    have hquote : '"' ∈ '\x7d' :: t := by
      split at hclosing
      · next u hopening => exact hclosing ▸ hbehind _ u (by decide) (hopening ▸ hstart)
      · exact hclosing ▸ hstart
    exact hend _ _ (hbehind _ t (by decide) hquote)
  · split
    · next u hopening => exact hend _ _ (hbehind _ u (by decide) (hopening ▸ hstart))
    · exact hend _ _ hstart

/-- Before the quote behind a label no label ends: even a bracket would have the quote behind it. -/
theorem labelEnd?_eq_none {c : Char} {s : List Char} (hc : c ≠ '"') (hs : '"' ∈ s) :
    labelEnd? (c :: s) = none := by
  have hstart : '"' ∈ trimStart (c :: s) :=
    mem_trimStart (by decide) (List.mem_cons_of_mem c hs)
  rw [labelEnd?.eq_def]
  dsimp only
  split
  · next t heq =>
    split at heq
    · next u hcons => exact absurd (List.cons.inj hcons).1 hc
    · rw [heq] at hstart
      exact bodyMark?_eq_none ((List.mem_cons.1 hstart).resolve_left (by decide))
  · rfl

/-- A label without quotes is read up to the quote and the bracket behind it. -/
theorem displayLabel?_written {label mark : List Char} {opens : Bool} (h : '"' ∉ label)
    (hmark : bodyMark? mark = some opens) :
    displayLabel? (label ++ '"' :: ']' :: mark) = some (label, opens) := by
  induction label with
  | nil =>
      have hend : labelEnd? ('"' :: ']' :: mark) = some opens := hmark
      rw [List.nil_append, displayLabel?, hend]
  | cons c label ih =>
      obtain ⟨hc, hlabel⟩ := not_or.1 (List.mem_cons.not.1 h)
      have hquote : '"' ∈ label ++ '"' :: ']' :: mark := by simp
      rw [List.cons_append, displayLabel?, labelEnd?_eq_none (Ne.symm hc) hquote, ih hlabel]
      rfl

/-- The mark behind a declaration that opens a body, or that does not. -/
def openingMark (opens : Bool) : List Char :=
  if opens then " \x7b".toList else []

theorem bodyMark?_openingMark (opens : Bool) : bodyMark? (openingMark opens) = some opens := by
  cases opens <;> decide

/-- A label between brackets and quotes, as a declaration has it. -/
def quotedLabel (label : List Char) : List Char :=
  "[\"".toList ++ label ++ "\"]".toList

section

variable {id : List Char} (hne : id ≠ []) (hid : ∀ c ∈ id, isWord c = true)
include hne hid

theorem spanWord_id {rest : List Char} (hrest : Stops isWord rest) :
    spanWord (trimStart (id ++ rest)) = (id, rest) := by
  have hblank : Stops isBlank (id ++ rest) :=
    (stops_of_forall fun c hc => isBlank_of_isWord (hid c hc)).append hne
  rw [trimStart_of_stops hblank, spanWord, span_append_of_stops hid hrest]

/-- A declaration without a label shows the id. -/
theorem declaration?_bare (opens : Bool) :
    declaration? ("class ".toList ++ (id ++ openingMark opens)) =
      some (.declaration id id opens) := by
  have hafter : after? "class" ("class ".toList ++ (id ++ openingMark opens)) =
      some (' ' :: (id ++ openingMark opens)) := after?_eq_some_iff.2 rfl
  have hstops : Stops isWord (openingMark opens) := by cases opens <;> decide
  have hspan := spanWord_id hne hid hstops
  rw [declaration?, hafter]
  simp only [Option.bind_eq_bind, Option.bind_some, hspan]
  rw [if_neg (by decide), if_neg (by simpa using hne)]
  cases opens <;> rfl

/-- A declaration with a label shows the label. -/
theorem declaration?_labelled {label : List Char} (hlabel : label ≠ []) (h : '"' ∉ label)
    (opens : Bool) :
    declaration? ("class ".toList ++ (id ++ (quotedLabel label ++ openingMark opens))) =
      some (.declaration id label opens) := by
  have htext : quotedLabel label ++ openingMark opens =
      '[' :: '"' :: (label ++ '"' :: ']' :: openingMark opens) := by
    rw [quotedLabel, List.append_assoc, List.append_assoc]
    rfl
  have hafter : after? "class" ("class ".toList ++ (id ++ (quotedLabel label ++ openingMark opens)))
      = some (' ' :: (id ++ (quotedLabel label ++ openingMark opens))) := after?_eq_some_iff.2 rfl
  have hstops : Stops isWord (quotedLabel label ++ openingMark opens) := by
    rw [htext]
    exact stops_cons_iff.2 (by decide)
  have hspan := spanWord_id hne hid hstops
  have hdisplay := displayLabel?_written h (bodyMark?_openingMark opens)
  rw [declaration?, hafter]
  simp only [Option.bind_eq_bind, Option.bind_some, hspan]
  rw [if_neg (by decide), if_neg (by simpa using hne), htext]
  have hopening : isBlank '[' = false := by decide
  have hquote : isBlank '"' = false := by decide
  have hdrop : ∀ t, dropTypeParameters? ('[' :: t) = some ('[' :: t) := fun _ => rfl
  simp only [hdrop, Option.bind_some, trimStart_cons_of_not_blank hopening,
    trimStart_cons_of_not_blank hquote, hdisplay]
  rw [if_neg (by simpa using hlabel)]

end

end DiagramBridge.Mermaid.ClassDiagram
