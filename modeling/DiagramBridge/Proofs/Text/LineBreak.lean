import DiagramBridge.Proofs.Text.Blank

/-!
# Line breaks of every kind

A carriage return becomes a line feed, unless the line feed that belongs to it follows; then it
goes. Every line break is white space before and after, so trimming a text and unifying its line
breaks can be done in either order, and a word without line breaks is found where it was found
before.
-/

namespace DiagramBridge.Text

/-! ## One character after the other -/

/-- What a character becomes in front of another one. -/
def unifiedChar (c : Char) (next : Option Char) : List Char :=
  if c = '\r' then if next = some '\n' then [] else ['\n'] else [c]

theorem unifyLineBreaks_cons (c : Char) (s : List Char) :
    unifyLineBreaks (c :: s) = unifiedChar c s.head? ++ unifyLineBreaks s := by
  by_cases hc : c = '\r'
  · subst hc
    cases s with
    | nil => rfl
    | cons d s =>
        by_cases hd : d = '\n'
        · subst hd
          rfl
        · simp [unifyLineBreaks, unifiedChar, hd]
  · simp [unifyLineBreaks, unifiedChar, hc]

theorem unifyLineBreaks_cons_of_ne {c : Char} (hc : c ≠ '\r') (s : List Char) :
    unifyLineBreaks (c :: s) = c :: unifyLineBreaks s := by
  rw [unifyLineBreaks_cons, unifiedChar, if_neg hc, List.singleton_append]

/-- A text that begins with a carriage return begins with a line feed in the end. -/
theorem exists_unifyLineBreaks_return (s : List Char) :
    ∃ t, unifyLineBreaks ('\r' :: s) = '\n' :: t := by
  cases s with
  | nil => exact ⟨[], rfl⟩
  | cons d s =>
      by_cases hd : d = '\n'
      · exact ⟨unifyLineBreaks s, by rw [hd]; rfl⟩
      · exact ⟨unifyLineBreaks (d :: s), by simp [unifyLineBreaks_cons '\r', unifiedChar, hd]⟩

theorem unifyLineBreaks_eq_nil_iff {s : List Char} : unifyLineBreaks s = [] ↔ s = [] := by
  refine ⟨fun h => ?_, fun h => by rw [h]; rfl⟩
  cases s with
  | nil => rfl
  | cons c s =>
      by_cases hc : c = '\r'
      · subst hc
        obtain ⟨t, ht⟩ := exists_unifyLineBreaks_return s
        exact absurd (ht ▸ h) (by simp)
      · exact absurd (unifyLineBreaks_cons_of_ne hc s ▸ h) (by simp)

theorem mem_unifyLineBreaks {s : List Char} {c : Char} (h : c ∈ unifyLineBreaks s) :
    c = '\n' ∨ (c ≠ '\r' ∧ c ∈ s) := by
  induction s with
  | nil => exact absurd h (by simp [unifyLineBreaks])
  | cons d s ih =>
      rw [unifyLineBreaks_cons, List.mem_append] at h
      rcases h with h | h
      · by_cases hd : d = '\r'
        · rw [unifiedChar, if_pos hd] at h
          split_ifs at h with hnext
          · exact absurd h (by simp)
          · exact Or.inl (List.mem_singleton.1 h)
        · rw [unifiedChar, if_neg hd, List.mem_singleton] at h
          exact Or.inr ⟨h ▸ hd, by simp [h]⟩
      · exact (ih h).imp_right fun hc => ⟨hc.1, by simp [hc.2]⟩

theorem unifyLineBreaks_of_no_return {s : List Char} (h : '\r' ∉ s) : unifyLineBreaks s = s := by
  induction s with
  | nil => rfl
  | cons c s ih =>
      rw [List.mem_cons, not_or] at h
      rw [unifyLineBreaks_cons_of_ne (Ne.symm h.1), ih h.2]

theorem unifyLineBreaks_unifyLineBreaks (s : List Char) :
    unifyLineBreaks (unifyLineBreaks s) = unifyLineBreaks s := by
  refine unifyLineBreaks_of_no_return fun h => ?_
  rcases mem_unifyLineBreaks h with h | h
  · exact absurd h (by decide)
  · exact h.1 rfl

/-- Between two parts of a text nothing is lost if the second does not begin with a line feed. -/
theorem unifyLineBreaks_append {t : List Char} (ht : Stops (· == '\n') t) (s : List Char) :
    unifyLineBreaks (s ++ t) = unifyLineBreaks s ++ unifyLineBreaks t := by
  induction s with
  | nil => rfl
  | cons c s ih =>
      rw [List.cons_append, unifyLineBreaks_cons, ih, unifyLineBreaks_cons, List.append_assoc]
      cases s with
      | nil =>
          have hnext : t.head? ≠ some '\n' := fun h => absurd (ht '\n' h) (by simp)
          rw [List.nil_append, unifiedChar, if_neg hnext, unifiedChar]
          rfl
      | cons d s => rfl

/-! ## White space -/

theorem isBlank_of_mem_unifyLineBreaks {s : List Char} (h : ∀ c ∈ s, isBlank c = true) :
    ∀ c ∈ unifyLineBreaks s, isBlank c = true := by
  intro c hc
  rcases mem_unifyLineBreaks hc with rfl | hc
  · decide
  · exact h c hc.2

theorem ne_return_of_not_blank {c : Char} (hc : isBlank c = false) : c ≠ '\r' := by
  rintro rfl
  exact absurd hc (by decide)

theorem stops_lineFeed_of_stops_blank {s : List Char} (h : Stops isBlank s) :
    Stops (· == '\n') s := by
  refine h.mono fun c hc => beq_false_of_ne ?_
  rintro rfl
  exact absurd hc (by decide)

theorem stops_unifyLineBreaks {s : List Char} (h : Stops isBlank s) :
    Stops isBlank (unifyLineBreaks s) := by
  cases s with
  | nil => exact stops_nil _
  | cons c s =>
      have hc : isBlank c = false := stops_cons_iff.1 h
      rw [unifyLineBreaks_cons_of_ne (ne_return_of_not_blank hc)]
      exact stops_cons_iff.2 hc

theorem trimStart_unifyLineBreaks (s : List Char) :
    trimStart (unifyLineBreaks s) = unifyLineBreaks (trimStart s) := by
  obtain ⟨b, hb, hs⟩ := exists_eq_append_trimStart s
  have hstart : Stops isBlank (trimStart s) := stops_dropWhile isBlank s
  calc trimStart (unifyLineBreaks s)
      = trimStart (unifyLineBreaks b ++ unifyLineBreaks (trimStart s)) := by
        rw [← unifyLineBreaks_append (stops_lineFeed_of_stops_blank hstart), ← hs]
    _ = unifyLineBreaks (trimStart s) := by
        rw [trimStart_append (isBlank_of_mem_unifyLineBreaks hb),
          trimStart_of_stops (stops_unifyLineBreaks hstart)]

/-- The first character that is no white space stays the first one. -/
theorem head?_trimStart_unifyLineBreaks (s : List Char) :
    (trimStart (unifyLineBreaks s)).head? = (trimStart s).head? := by
  rw [trimStart_unifyLineBreaks]
  have hstart : Stops isBlank (trimStart s) := stops_dropWhile isBlank s
  cases htrim : trimStart s with
  | nil => rfl
  | cons c s =>
      rw [htrim, stops_cons_iff] at hstart
      rw [unifyLineBreaks_cons_of_ne (ne_return_of_not_blank hstart)]
      rfl

theorem trimEnd_unifyLineBreaks (s : List Char) :
    trimEnd (unifyLineBreaks s) = unifyLineBreaks (trimEnd s) := by
  obtain ⟨e, he, hs⟩ := exists_eq_trimEnd_append s
  have hstop : Stops isBlank (trimEnd s).reverse := by
    rw [trimEnd, List.reverse_reverse]
    exact stops_dropWhile isBlank _
  have hblank := isBlank_of_mem_unifyLineBreaks he
  rcases List.eq_nil_or_concat' (trimEnd s) with hnil | ⟨front, c, hlast⟩
  · rw [hnil, List.nil_append] at hs
    rw [hnil, hs]
    exact trimEnd_append (s := []) hblank
  · -- The last character that is kept is visible, so nothing in front of it changes with the rest.
    rw [hlast, List.reverse_append, List.reverse_singleton, List.singleton_append,
      stops_cons_iff] at hstop
    have hsplit (t : List Char) :
        unifyLineBreaks (front ++ c :: t) = unifyLineBreaks front ++ [c] ++ unifyLineBreaks t := by
      rw [unifyLineBreaks_append (stops_lineFeed_of_stops_blank (stops_cons_iff.2 hstop)),
        unifyLineBreaks_cons_of_ne (ne_return_of_not_blank hstop), List.append_cons]
    have hkept : unifyLineBreaks (front ++ [c]) = unifyLineBreaks front ++ [c] :=
      (hsplit []).trans (List.append_nil _)
    rw [hlast, List.append_assoc, List.singleton_append] at hs
    rw [hlast, hkept, hs, hsplit, trimEnd_append hblank]
    exact trimEnd_of_stops (stops_reverse_append (stops_cons_iff.2 hstop) (by simp) _)

theorem trim_unifyLineBreaks (s : List Char) :
    trim (unifyLineBreaks s) = unifyLineBreaks (trim s) := by
  rw [trim, trimStart_unifyLineBreaks, trimEnd_unifyLineBreaks, trim]

/-! ## Words without line breaks -/

theorem isPrefix_unifyLineBreaks_iff {word s : List Char} (hfeed : '\n' ∉ word)
    (hreturn : '\r' ∉ word) : word <+: unifyLineBreaks s ↔ word <+: s := by
  induction s generalizing word with
  | nil => rfl
  | cons c s ih =>
      cases word with
      | nil => simp
      | cons d word =>
          rw [List.mem_cons, not_or] at hfeed hreturn
          by_cases hc : c = '\r'
          · subst hc
            obtain ⟨t, ht⟩ := exists_unifyLineBreaks_return s
            rw [ht, List.cons_prefix_cons, List.cons_prefix_cons]
            exact ⟨fun h => absurd h.1.symm hfeed.1, fun h => absurd h.1.symm hreturn.1⟩
          · rw [unifyLineBreaks_cons_of_ne hc, List.cons_prefix_cons, List.cons_prefix_cons,
              ih hfeed.2 hreturn.2]

theorem isInfix_unifyLineBreaks_iff {word s : List Char} (hne : word ≠ []) (hfeed : '\n' ∉ word)
    (hreturn : '\r' ∉ word) : word <:+: unifyLineBreaks s ↔ word <:+: s := by
  induction s with
  | nil => rfl
  | cons c s ih =>
      rw [List.infix_cons_iff, ← isPrefix_unifyLineBreaks_iff hfeed hreturn, ← ih]
      by_cases hc : c = '\r'
      · -- A break begins no word, and behind it the rest is as before.
        subst hc
        obtain ⟨d, word, rfl⟩ := List.exists_cons_of_ne_nil hne
        rw [List.mem_cons, not_or] at hfeed
        have hbreak : ∀ t, ¬ d :: word <+: '\n' :: t := fun t h =>
          hfeed.1 (List.cons_prefix_cons.1 h).1.symm
        obtain ⟨t, ht⟩ := exists_unifyLineBreaks_return s
        have hnone : ¬ d :: word <+: unifyLineBreaks ('\r' :: s) := ht ▸ hbreak t
        rw [or_iff_right hnone, unifyLineBreaks_cons, unifiedChar, if_pos rfl]
        split_ifs
        · rw [List.nil_append]
        · rw [List.singleton_append, List.infix_cons_iff, or_iff_right (hbreak _)]
      · rw [unifyLineBreaks_cons_of_ne hc, List.infix_cons_iff]

end DiagramBridge.Text
