import DiagramBridge.Proofs.Drawio.Label

/-!
# What a cleaned label looks like

However broken the HTML of a cell is, its label is tidy: it has none of the characters that Mermaid
gives a meaning to, no line of it is empty, and white space stands in it only as one space between
two other characters. The last stage of cleaning alone sees to this, so it holds of any value.

A label that is written into a cell and cleaned again comes back in its normal form. The rows of
words say what that leaves of it: each line with a word in it is still there, with the same words in
the same order, and in each word the three replaced characters apart every character stands where it
stood. Markup, names of characters and line-break tags in a label are words like any other.
-/

namespace DiagramBridge.Drawio

open Text

/-! ## Single spaces -/

/-- White space stands in the text only as a space between two characters that are none. -/
def IsSingleSpaced (s : List Char) : Prop :=
  ∀ front c back, s = front ++ c :: back → isBlank c = true →
    c = ' ' ∧ (∃ d ∈ front.getLast?, isBlank d = false) ∧ ∃ d ∈ back.head?, isBlank d = false

theorem isSingleSpaced_of_forall {s : List Char} (h : ∀ c ∈ s, isBlank c = false) :
    IsSingleSpaced s := by
  intro front c back hs hblank
  rw [h c (by simp [hs])] at hblank
  exact absurd hblank (by simp)

theorem exists_mem_head? {w : List Char} (hw : IsWordRun w) (s : List Char) :
    ∃ d ∈ (w ++ s).head?, isBlank d = false := by
  obtain ⟨c, w, rfl⟩ := List.exists_cons_of_ne_nil hw.1
  exact ⟨c, rfl, hw.2 c (by simp)⟩

theorem exists_mem_getLast? {w : List Char} (hw : IsWordRun w) :
    ∃ d ∈ w.getLast?, isBlank d = false :=
  ⟨w.getLast hw.1, List.getLast?_eq_some_getLast hw.1, hw.2 _ (List.getLast_mem hw.1)⟩

/-- A word, a space and a text that begins with a word. -/
theorem IsSingleSpaced.cons_word {w v s : List Char} (hw : IsWordRun w) (hv : IsWordRun v)
    (hs : IsSingleSpaced (v ++ s)) : IsSingleSpaced (w ++ ' ' :: (v ++ s)) := by
  intro front c back heq hblank
  rcases List.append_eq_append_iff.1 heq with ⟨mid, hfront, htail⟩ | ⟨mid, hword, htail⟩
  · -- The character is the space or stands behind it.
    cases mid with
    | nil =>
        obtain ⟨rfl, rfl⟩ := List.cons.inj htail
        rw [List.append_nil] at hfront
        exact ⟨rfl, hfront ▸ exists_mem_getLast? hw, exists_mem_head? hv s⟩
    | cons d mid =>
        obtain ⟨rfl, hrest⟩ := List.cons.inj htail
        obtain ⟨hspace, ⟨e, he, hlast⟩, hhead⟩ := hs mid c back hrest hblank
        refine ⟨hspace, ⟨e, ?_, hlast⟩, hhead⟩
        have hmid : mid ≠ [] := by
          rintro rfl
          exact absurd he (by simp)
        rw [hfront, List.getLast?_append_of_ne_nil _ (by simp),
          List.getLast?_cons_of_ne_nil hmid]
        exact he
  · -- A word has no white space.
    cases mid with
    | nil =>
        obtain ⟨rfl, rfl⟩ := List.cons.inj htail
        rw [List.append_nil] at hword
        exact ⟨rfl, hword ▸ exists_mem_getLast? hw, exists_mem_head? hv s⟩
    | cons d mid =>
        obtain ⟨rfl, -⟩ := List.cons.inj htail
        rw [hw.2 c (by simp [hword])] at hblank
        exact absurd hblank (by simp)

theorem isSingleSpaced_intercalate {ws : List (List Char)} (h : ∀ w ∈ ws, IsWordRun w) :
    IsSingleSpaced (List.intercalate [' '] ws) := by
  induction ws with
  | nil => exact isSingleSpaced_of_forall (by simp)
  | cons w ws ih =>
      have hw := h w (by simp)
      have htail := ih fun v hv => h v (by simp [hv])
      cases ws with
      | nil =>
          rw [List.intercalate_singleton]
          exact isSingleSpaced_of_forall hw.2
      | cons v ws =>
          obtain ⟨s, hs⟩ := exists_intercalate_cons_eq [' '] v ws
          rw [hs] at htail
          rw [List.intercalate_cons_cons, hs, List.append_assoc, List.singleton_append]
          exact htail.cons_word hw (h v (by simp))

/-! ## The replaced characters -/

/-- A replaced character is a visible one and becomes a visible one. -/
theorem plainChar_cases (c : Char) :
    plainChar c = c ∨ (isBlank c = false ∧ isBlank (plainChar c) = false) := by
  rw [plainChar]
  split_ifs with h1 h2 h3
  · exact Or.inr ⟨h1 ▸ by decide, by decide⟩
  · exact Or.inr ⟨h2 ▸ by decide, by decide⟩
  · exact Or.inr ⟨h3 ▸ by decide, by decide⟩
  · exact Or.inl rfl

theorem isBlank_plainChar (c : Char) : isBlank (plainChar c) = isBlank c := by
  rcases plainChar_cases c with h | ⟨h1, h2⟩
  · rw [h]
  · rw [h1, h2]

theorem plainChar_not_mem (c : Char) : plainChar c ∉ ['"', '[', ']'] := by
  rw [plainChar]
  split_ifs with h1 h2 h3
  · decide
  · decide
  · decide
  · simp [h1, h2, h3]

theorem IsWordRun.map_plainChar {w : List Char} (hw : IsWordRun w) :
    IsWordRun (w.map plainChar) := by
  refine ⟨by simpa using hw.1, fun c hc => ?_⟩
  obtain ⟨d, hd, rfl⟩ := List.mem_map.1 hc
  rw [isBlank_plainChar, hw.2 d hd]

theorem isWordRun_of_mem_map_plainChar {s w : List Char}
    (hw : w ∈ (words s).map (List.map plainChar)) : IsWordRun w := by
  obtain ⟨v, hv, rfl⟩ := List.mem_map.1 hw
  exact IsWordRun.map_plainChar (isWordRun_of_mem_words hv)

/-- Characters of joined texts are replaced in each of them if the joint keeps its own. -/
theorem map_intercalate_singleton {f : Char → Char} {c : Char} (hc : f c = c)
    (ws : List (List Char)) :
    (List.intercalate [c] ws).map f = List.intercalate [c] (ws.map (List.map f)) := by
  induction ws with
  | nil => rfl
  | cons w ws ih =>
      cases ws with
      | nil => simp
      | cons v ws =>
          rw [List.intercalate_cons_cons, List.map_append, List.map_append, ih]
          simp [List.intercalate_cons_cons, hc]

/-- A line of a normalized text. -/
def plainLine (l : List Char) : List Char :=
  (collapse l).map plainChar

theorem plainLine_eq (l : List Char) :
    plainLine l = List.intercalate [' '] ((words l).map (List.map plainChar)) :=
  map_intercalate_singleton rfl _

theorem isSingleSpaced_plainLine (l : List Char) : IsSingleSpaced (plainLine l) := by
  rw [plainLine_eq]
  exact isSingleSpaced_intercalate fun _ => isWordRun_of_mem_map_plainChar

theorem words_plainLine (l : List Char) : words (plainLine l) = (words l).map (List.map plainChar) := by
  rw [plainLine_eq, words_intercalate fun _ => isWordRun_of_mem_map_plainChar]

theorem lineFeed_not_mem_plainLine (l : List Char) : '\n' ∉ plainLine l := by
  intro h
  rw [plainLine_eq] at h
  rcases mem_intercalate h with h | ⟨w, hw, hmem⟩
  · exact absurd h (by decide)
  · exact absurd ((isWordRun_of_mem_map_plainChar hw).2 _ hmem) (by decide)

/-! ## Lines of a normalized text -/

/-- The lines of a text that have a word in them, collapsed and without the replaced characters. -/
def plainLines (s : List Char) : List (List Char) :=
  ((lines s).filter (words · ≠ [])).map plainLine

theorem collapse_eq_nil_iff {l : List Char} : collapse l = [] ↔ words l = [] := by
  refine ⟨fun h => ?_, fun h => by rw [collapse, h]; rfl⟩
  have hwords : words (collapse l) = words l := words_intercalate fun _ => isWordRun_of_mem_words
  rw [← hwords, h]
  rfl

theorem normalize_eq (s : List Char) : normalize s = unlines (plainLines s) := by
  have htidy : tidyLines s = ((lines s).filter (words · ≠ [])).map collapse := by
    rw [tidyLines, List.filter_map]
    refine congrArg _ (List.filter_congr fun l _ => ?_)
    rw [Bool.eq_iff_iff]
    simp [collapse_eq_nil_iff]
  rw [normalize, unlines, map_intercalate_singleton rfl, htidy, List.map_map]
  rfl

theorem plainLine_ne_nil {s l : List Char} (h : l ∈ plainLines s) : l ≠ [] := by
  obtain ⟨m, hm, rfl⟩ := List.mem_map.1 h
  have hwords : words m ≠ [] := by simpa using (List.mem_filter.1 hm).2
  exact fun hnil => hwords (collapse_eq_nil_iff.1 (List.map_eq_nil_iff.1 hnil))

theorem lines_normalize {s : List Char} (h : plainLines s ≠ []) :
    lines (normalize s) = plainLines s := by
  rw [normalize_eq]
  refine lines_unlines (fun l hl => ?_) h
  obtain ⟨m, -, rfl⟩ := List.mem_map.1 hl
  exact lineFeed_not_mem_plainLine m

theorem normalize_of_plainLines_eq_nil {s : List Char} (h : plainLines s = []) :
    normalize s = [] := by
  rw [normalize_eq, h]
  rfl

/-! ## Tidy labels -/

/-- A label without the characters that Mermaid gives a meaning to, without empty lines, and with
single spaces only. -/
structure IsTidyLabel (s : List Char) : Prop where
  noQuote : '"' ∉ s
  noOpening : '[' ∉ s
  noClosing : ']' ∉ s
  noEmptyLine : s ≠ [] → [] ∉ lines s
  singleSpaced : ∀ l ∈ lines s, IsSingleSpaced l

theorem isTidyLabel_normalize (s : List Char) : IsTidyLabel (normalize s) := by
  have hchars : ∀ c ∈ ['"', '[', ']'], c ∉ normalize s := by
    intro c hc hmem
    obtain ⟨d, -, rfl⟩ := List.mem_map.1 hmem
    exact plainChar_not_mem d hc
  have hlines : (normalize s ≠ [] → [] ∉ lines (normalize s)) ∧
      ∀ l ∈ lines (normalize s), IsSingleSpaced l := by
    by_cases h : plainLines s = []
    · rw [normalize_of_plainLines_eq_nil h]
      refine ⟨fun hne => absurd rfl hne, fun l hl => ?_⟩
      rw [lines_of_not_mem (by simp), List.mem_singleton] at hl
      exact isSingleSpaced_of_forall (by simp [hl])
    · rw [lines_normalize h]
      refine ⟨fun _ hnil => plainLine_ne_nil hnil rfl, fun l hl => ?_⟩
      obtain ⟨m, -, rfl⟩ := List.mem_map.1 hl
      exact isSingleSpaced_plainLine m
  exact ⟨hchars _ (by simp), hchars _ (by simp), hchars _ (by simp), hlines.1, hlines.2⟩

/-! ## What comes back -/

/-- The words of each line that has one. -/
def wordRows (s : List Char) : List (List (List Char)) :=
  ((lines s).map words).filter (· ≠ [])

theorem wordRows_normalize (s : List Char) :
    wordRows (normalize s) = (wordRows s).map (List.map (List.map plainChar)) := by
  have hrows : (plainLines s).map words =
      (wordRows s).map (List.map (List.map plainChar)) := by
    rw [plainLines, wordRows, List.filter_map, List.map_map, List.map_map]
    exact List.map_congr_left fun l _ => words_plainLine l
  have hne : ∀ row ∈ (plainLines s).map words, row ≠ [] := by
    intro row hrow
    rw [hrows] at hrow
    obtain ⟨r, hr, rfl⟩ := List.mem_map.1 hrow
    simpa using (List.mem_filter.1 hr).2
  by_cases h : plainLines s = []
  · rw [normalize_of_plainLines_eq_nil h, ← hrows, h]
    rfl
  · rw [wordRows, lines_normalize h, List.filter_eq_self.2 (by simpa using hne), hrows]

/-- Markup and names of characters in a label are kept, and so is what looks like a line-break
tag. -/
example : cleanString (cellValueString " a <br/> &nbsp;\t&lt;b&gt;\n\n\"x\" [y]") =
    "a <br/> &nbsp; &lt;b&gt;\n'x' (y)" := by
  rw [cleanString_cellValueString]
  decide +kernel

end DiagramBridge.Drawio
