import DiagramBridge.Mermaid.LabelText
import DiagramBridge.Proofs.Text.Blank
import Mathlib.Data.List.Infix

/-!
# Written labels

A written label is the label with its line breaks as tags and its double quotes by name, between
quotes if it needs them. Reading takes the quotes away again, so what is read is the encoded label,
as long as it is trimmed.
-/

namespace DiagramBridge.Mermaid

open Text

/-- A character of a label as it is written. -/
def encodeChar (c : Char) : List Char :=
  if c = '\n' then "<br/>".toList else quotedLabelChar c

/-- A label as it is written, without quotes around it. -/
def encode (s : List Char) : List Char :=
  s.flatMap encodeChar

@[simp] theorem encode_nil : encode [] = [] := rfl

theorem encode_append (s t : List Char) : encode (s ++ t) = encode s ++ encode t :=
  List.flatMap_append

/-- Nothing is left of line breaks and double quotes. -/
theorem ne_of_mem_encode {s : List Char} {c : Char} (h : c ∈ encode s) : c ≠ '\n' ∧ c ≠ '"' := by
  have hwritten : ∀ d ∈ "<br/>".toList ++ "#quot;".toList, d ≠ '\n' ∧ d ≠ '"' := by decide
  obtain ⟨d, -, hc⟩ := List.mem_flatMap.1 h
  rw [encodeChar, quotedLabelChar] at hc
  split_ifs at hc with hbreak hquote
  · exact hwritten c (List.mem_append_left _ hc)
  · exact hwritten c (List.mem_append_right _ hc)
  · rw [List.mem_singleton.1 hc]
    exact ⟨hbreak, hquote⟩

theorem flatMap_quotedLabelChar_of_not_mem {s : List Char} (h : '"' ∉ s) :
    s.flatMap quotedLabelChar = s := by
  induction s with
  | nil => rfl
  | cons c s ih =>
      have hc : c ≠ '"' := fun heq => h (by simp [heq])
      rw [List.flatMap_cons, ih fun hs => h (by simp [hs]), quotedLabelChar, if_neg hc,
        List.singleton_append]

theorem encode_of_not_mem {s : List Char} (h : '\n' ∉ s) : encode s = s.flatMap quotedLabelChar :=
  List.flatMap_congr fun c hc => if_neg fun heq : c = '\n' => h (heq ▸ hc)

theorem encode_of_plain {s : List Char} (hbreak : '\n' ∉ s) (hquote : '"' ∉ s) : encode s = s := by
  rw [encode_of_not_mem hbreak, flatMap_quotedLabelChar_of_not_mem hquote]

/-- The characters that begin what a line break or a double quote is written as, and these two. -/
def markChars : List Char := ['<', '#', '\n', '"']

theorem encodeChar_cases (c : Char) :
    encodeChar c = [c] ∨ ∃ d s, encodeChar c = d :: s ∧ d ∈ markChars ∧
      ∀ e ∈ d :: s, e ∈ "<br/>#quot;".toList := by
  rw [encodeChar, quotedLabelChar]
  split_ifs
  · exact Or.inr ⟨'<', "br/>".toList, rfl, by decide, by decide⟩
  · exact Or.inr ⟨'#', "quot;".toList, rfl, by decide, by decide⟩
  · exact Or.inl rfl

theorem isPrefix_of_encode {p s : List Char} (hp : ∀ c ∈ p, c ∉ markChars) (h : p <+: encode s) :
    p <+: s := by
  induction p generalizing s with
  | nil => exact List.nil_prefix
  | cons c p ih =>
      cases s with
      | nil => exact h
      | cons d s =>
          rw [encode, List.flatMap_cons] at h
          rcases encodeChar_cases d with hd | ⟨e, t, hd, he, -⟩
          · rw [hd, List.singleton_append, List.cons_prefix_cons] at h
            obtain ⟨rfl, h⟩ := h
            exact (List.prefix_cons_inj c).2 (ih (fun e he => hp e (by simp [he])) h)
          · rw [hd, List.cons_append, List.cons_prefix_cons] at h
            exact absurd (h.1 ▸ he) (hp c (by simp))

/-- A word occurs in an encoded label exactly where it occurs in the label, if it has nothing to do
with what line breaks and double quotes are written as. -/
theorem isInfix_encode_iff {p s : List Char} (hne : p ≠ []) (hp : ∀ c ∈ p, c ∉ markChars)
    (hhead : ∀ c ∈ p.head?, c ∉ "<br/>#quot;".toList) : p <:+: encode s ↔ p <:+: s := by
  constructor
  · intro h
    induction s with
    | nil => exact h
    | cons d s ih =>
        have htail : p <:+: encode s → p <:+: d :: s := fun h =>
          (ih h).trans (List.suffix_cons d s).isInfix
        have hcons : encode (d :: s) = encodeChar d ++ encode s := List.flatMap_cons
        rcases encodeChar_cases d with hd | ⟨e, t, hd, -, hmarks⟩
        · rw [hcons, hd, List.singleton_append] at h
          rcases List.infix_cons_iff.1 h with hpre | h
          · refine (isPrefix_of_encode hp ?_).isInfix
            rwa [hcons, hd, List.singleton_append]
          · exact htail h
        · -- The word begins with no character of what is written here, so it stands behind it.
          rw [hcons, hd] at h
          exact htail (isInfix_of_append_left hne (fun c hc hct => hhead c hc (hmarks c hct)) h)
  · rintro ⟨a, b, rfl⟩
    have hplain : encode p = p :=
      encode_of_plain (fun hmem => hp _ hmem (by decide)) fun hmem => hp _ hmem (by decide)
    rw [encode_append, encode_append, hplain]
    exact ⟨_, _, rfl⟩

theorem mem_encode_iff {c : Char} (hc : c ∉ "<br/>#quot;".toList ++ markChars) {s : List Char} :
    c ∈ encode s ↔ c ∈ s := by
  rw [List.mem_append, not_or] at hc
  rw [← List.singleton_infix_iff, ← List.singleton_infix_iff]
  refine isInfix_encode_iff (by simp) (by simpa using hc.2) fun d hd => ?_
  obtain rfl : c = d := Option.some.inj hd
  exact hc.1

theorem encode_unlines {ls : List (List Char)} (h : ∀ l ∈ ls, '\n' ∉ l) :
    encode (unlines ls) = withBreaks (ls.map (·.flatMap quotedLabelChar)) := by
  induction ls with
  | nil => rfl
  | cons l ls ih =>
      have hl := encode_of_not_mem (h l (by simp))
      cases ls with
      | nil => simp [unlines, withBreaks, hl]
      | cons m ls =>
          have hm := ih fun k hk => h k (by simp [hk])
          rw [unlines, withBreaks] at hm
          rw [unlines, List.intercalate_cons_cons, encode_append, encode_append, hm, hl, withBreaks,
            List.map_cons (l := m :: ls), List.map_cons, List.intercalate_cons_cons]
          rfl

theorem labelText_eq (s : List Char) :
    labelText s = if s.any needsQuotes then '"' :: encode s ++ ['"'] else encode s := by
  have hencode : encode (unlines (lines s)) =
      withBreaks ((lines s).map (·.flatMap quotedLabelChar)) :=
    encode_unlines fun l => lineFeed_not_mem_lines
  rw [unlines_lines] at hencode
  rw [labelText, ← hencode]
  split
  · rfl
  · next h =>
    have hquote : '"' ∉ s := by
      intro hmem
      exact h (List.any_eq_true.2 ⟨'"', hmem, by decide⟩)
    have hlines : ∀ l ∈ lines s, l.flatMap quotedLabelChar = l := by
      intro l hl
      refine flatMap_quotedLabelChar_of_not_mem fun hmem => hquote ?_
      rw [← unlines_lines s]
      exact mem_unlines hl hmem
    rw [hencode, List.map_congr_left hlines, List.map_id']

theorem mem_labelText {s : List Char} {c : Char} (h : c ∈ labelText s) :
    c = '"' ∨ c ∈ encode s := by
  rw [labelText_eq] at h
  split at h
  · simp only [List.cons_append, List.mem_cons, List.mem_append, List.not_mem_nil, or_false] at h
    rcases h with h | h | h
    · exact Or.inl h
    · exact Or.inr h
    · exact Or.inl h
  · exact Or.inr h

theorem isInfix_labelText (s : List Char) : encode s <:+: labelText s := by
  rw [labelText_eq]
  split
  · exact ⟨['"'], ['"'], rfl⟩
  · exact List.infix_refl _

theorem lineFeed_not_mem_labelText (s : List Char) : '\n' ∉ labelText s := by
  intro h
  rcases mem_labelText h with h | h
  · exact absurd h (by decide)
  · exact (ne_of_mem_encode h).1 rfl

/-! ## Taking quotes away -/

theorem betweenQuotes?_quoted (s : List Char) : betweenQuotes? ('"' :: s ++ ['"']) = some s := by
  rw [betweenQuotes?.eq_def]
  simp

theorem betweenQuotes?_of_not_mem {s : List Char} (h : '"' ∉ s) : betweenQuotes? s = none := by
  rw [betweenQuotes?.eq_def]
  split
  · exact absurd (by simp) h
  · rfl

theorem isTrimmed_quoted (s : List Char) : IsTrimmed ('"' :: s ++ ['"']) := by
  refine ⟨stops_cons_iff.2 (by decide), ?_⟩
  rw [List.reverse_append]
  exact stops_cons_iff.2 (by decide : isBlank '"' = false)

theorem unquote_of_plain {s : List Char} (htrim : IsTrimmed s) (hquote : '"' ∉ s) :
    unquote s = s := by
  rw [unquote]
  simp only [trim_of_isTrimmed htrim, betweenQuotes?_of_not_mem hquote, Option.getD_none]

/-- A written label is read as the encoded label. -/
theorem unquote_labelText {s : List Char} (h : IsTrimmed (encode s)) :
    unquote (labelText s) = encode s := by
  rw [labelText_eq]
  split
  · rw [unquote]
    simp only [trim_of_isTrimmed (isTrimmed_quoted _), betweenQuotes?_quoted, Option.getD_some,
      trim_of_isTrimmed h]
  · exact unquote_of_plain h fun hmem => (ne_of_mem_encode hmem).2 rfl

end DiagramBridge.Mermaid
