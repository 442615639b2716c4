import DiagramBridge.Proofs.Text.Search
import DiagramBridge.Text.Blank
import DiagramBridge.Text.Word

/-!
# Trimmed and collapsed texts

A text is trimmed when white space stands at neither end; `trim` gives such a text and leaves such
a text alone. A collapsed text is a row of words with single spaces between, so what is true of
words and of the space is true of it. Lines that have no line feed are given back when they are put
together and cut again.
-/

namespace DiagramBridge.Text

/-- The code points of white space. -/
def blankCodes : List Nat :=
  [9, 10, 11, 12, 13, 28, 29, 30, 31, 32, 0x85, 0xA0, 0x1680, 0x2000, 0x2001, 0x2002, 0x2003,
    0x2004, 0x2005, 0x2006, 0x2007, 0x2008, 0x2009, 0x200A, 0x2028, 0x2029, 0x202F, 0x205F, 0x3000]

theorem toNat_mem_blankCodes {c : Char} (h : isBlank c = true) : c.toNat ∈ blankCodes := by
  simp only [isBlank, Bool.or_eq_true, Bool.and_eq_true, decide_eq_true_eq, beq_iff_eq] at h
  simp only [blankCodes, List.mem_cons, List.not_mem_nil, or_false]
  omega

/-- No letter of a keyword is spelled by white space. -/
theorem foldLetter_of_isBlank {c : Char} (h : isBlank c = true) : foldLetter c = c := by
  have hcodes : ∀ n ∈ blankCodes, foldLetter (Char.ofNat n) = Char.ofNat n := by decide
  have hc := hcodes c.toNat (toNat_mem_blankCodes h)
  rwa [Char.ofNat_toNat] at hc

/-- A word character is no white space. -/
theorem isBlank_of_isWord {c : Char} (hw : isWord c = true) : isBlank c = false := by
  have hcodes : ∀ n ∈ blankCodes, isWord (Char.ofNat n) = false := by decide +kernel
  by_contra h
  have hc := hcodes c.toNat (toNat_mem_blankCodes (by simpa using h))
  rw [Char.ofNat_toNat, hw] at hc
  exact absurd hc (by simp)

theorem ne_of_isWord {c d : Char} (hc : isWord c = true) (hd : isWord d = false) : c ≠ d :=
  ne_of_kind hc hd

theorem not_mem_of_isWord {c : Char} {marks : List Char} (hc : isWord c = true)
    (hmarks : ∀ d ∈ marks, isWord d = false) : c ∉ marks :=
  fun hmem => ne_of_isWord hc (hmarks c hmem) rfl

theorem lineFeed_not_mem_of_word {w : List Char} (hw : ∀ c ∈ w, isWord c = true) : '\n' ∉ w :=
  fun hmem => ne_of_isWord (hw _ hmem) (by decide) rfl

/-! ## Trimming -/

/-- White space stands at neither end. -/
def IsTrimmed (s : List Char) : Prop :=
  Stops isBlank s ∧ Stops isBlank s.reverse

instance (s : List Char) : Decidable (IsTrimmed s) :=
  inferInstanceAs (Decidable (_ ∧ _))

theorem trimStart_of_stops {s : List Char} (h : Stops isBlank s) : trimStart s = s :=
  dropWhile_of_stops h

theorem trimStart_append {b s : List Char} (hb : ∀ c ∈ b, isBlank c = true) :
    trimStart (b ++ s) = trimStart s := by
  induction b with
  | nil => rfl
  | cons c b ih =>
      rw [List.cons_append, trimStart_cons_of_blank (hb c (by simp)),
        ih fun d hd => hb d (by simp [hd])]

theorem trimStart_of_blank {s : List Char} (h : ∀ c ∈ s, isBlank c = true) : trimStart s = [] := by
  have happend := trimStart_append (s := []) h
  rwa [List.append_nil] at happend

theorem mem_trimStart {s : List Char} {c : Char} (hblank : isBlank c = false) (hc : c ∈ s) :
    c ∈ trimStart s := by
  rw [← List.takeWhile_append_dropWhile (p := isBlank) (l := s), List.mem_append] at hc
  rcases hc with hc | hc
  · rw [List.all_eq_true.1 List.all_takeWhile c hc] at hblank
    exact absurd hblank (by simp)
  · exact hc

theorem trimEnd_of_stops {s : List Char} (h : Stops isBlank s.reverse) : trimEnd s = s := by
  have hs : trimStart s.reverse = s.reverse := trimStart_of_stops h
  rw [trimStart] at hs
  rw [trimEnd, hs, List.reverse_reverse]

theorem trim_of_isTrimmed {s : List Char} (h : IsTrimmed s) : trim s = s := by
  rw [trim, trimStart_of_stops h.1, trimEnd_of_stops h.2]

theorem isTrimmed_of_forall {s : List Char} (h : ∀ c ∈ s, isBlank c = false) : IsTrimmed s :=
  ⟨stops_of_forall h, stops_of_forall fun c hc => h c (List.mem_reverse.1 hc)⟩

theorem isPrefix_trimEnd (s : List Char) : trimEnd s <+: s := by
  have h := List.reverse_prefix.2 (List.dropWhile_suffix isBlank (l := s.reverse))
  rwa [List.reverse_reverse] at h

theorem isInfix_trim (s : List Char) : trim s <:+: s :=
  (isPrefix_trimEnd _).isInfix.trans (List.dropWhile_suffix isBlank).isInfix

theorem isTrimmed_trim (s : List Char) : IsTrimmed (trim s) := by
  refine ⟨(stops_dropWhile isBlank s).of_isPrefix (isPrefix_trimEnd _), ?_⟩
  rw [trim, trimEnd, List.reverse_reverse]
  exact stops_dropWhile isBlank _

/-- Indentation and white space at the end do not count. -/
theorem trim_append_append {b s e : List Char} (hb : ∀ c ∈ b, isBlank c = true)
    (he : ∀ c ∈ e, isBlank c = true) (hs : IsTrimmed s) : trim (b ++ s ++ e) = s := by
  rw [List.append_assoc, trim, trimStart_append hb]
  have hend : trimEnd (s ++ e) = s := by
    rw [trimEnd, List.reverse_append,
      dropWhile_append_of_stops (by simpa using he) hs.2, List.reverse_reverse]
  cases s with
  | nil =>
      rw [List.nil_append, trimStart_of_blank he]
      rfl
  | cons c s => rw [trimStart_of_stops (hs.1.append (by simp)), hend]

theorem trimEnd_append {s e : List Char} (he : ∀ c ∈ e, isBlank c = true) :
    trimEnd (s ++ e) = trimEnd s := by
  rw [trimEnd, List.reverse_append,
    List.dropWhile_append_of_pos fun c hc => he c (List.mem_reverse.1 hc), trimEnd]

/-- White space around a text does not count. -/
theorem trim_of_blank_around {b e : List Char} (hb : ∀ c ∈ b, isBlank c = true)
    (he : ∀ c ∈ e, isBlank c = true) (s : List Char) : trim (b ++ (s ++ e)) = trim s := by
  rw [trim, trimStart_append hb, trimStart, List.dropWhile_append]
  split
  · next hs =>
    have hblank : e.dropWhile isBlank = [] := trimStart_of_blank he
    rw [hblank, trim, trimStart, List.isEmpty_iff.1 hs]
  · rw [trimEnd_append he]
    rfl

theorem exists_eq_append_trimStart (s : List Char) :
    ∃ b, (∀ c ∈ b, isBlank c = true) ∧ s = b ++ trimStart s :=
  ⟨s.takeWhile isBlank, fun c hc => List.all_eq_true.1 List.all_takeWhile c hc,
    List.takeWhile_append_dropWhile.symm⟩

theorem exists_eq_trimEnd_append (s : List Char) :
    ∃ e, (∀ c ∈ e, isBlank c = true) ∧ s = trimEnd s ++ e := by
  obtain ⟨e, he, hs⟩ := exists_eq_append_trimStart s.reverse
  refine ⟨e.reverse, fun c hc => he c (List.mem_reverse.1 hc), ?_⟩
  rw [trimEnd, ← List.reverse_append]
  exact List.reverse_eq_iff.1 hs

theorem trim_trimEnd (s : List Char) : trim (trimEnd s) = trim s := by
  obtain ⟨e, he, hs⟩ := exists_eq_trimEnd_append s
  have h := trim_of_blank_around (b := []) (by simp) he (trimEnd s)
  rwa [List.nil_append, ← hs, eq_comm] at h

theorem exists_eq_append_trim (s : List Char) :
    ∃ b e, (∀ c ∈ b, isBlank c = true) ∧ (∀ c ∈ e, isBlank c = true) ∧
      s = b ++ (trim s ++ e) := by
  obtain ⟨b, hb, hs⟩ := exists_eq_append_trimStart s
  obtain ⟨e, he, ht⟩ := exists_eq_trimEnd_append (trimStart s)
  exact ⟨b, e, hb, he, hs.trans (congrArg (b ++ ·) ht)⟩

theorem trim_eq_nil_iff {s : List Char} : trim s = [] ↔ ∀ c ∈ s, isBlank c = true := by
  constructor
  · intro h
    obtain ⟨b, e, hb, he, hs⟩ := exists_eq_append_trim s
    rw [hs, h, List.nil_append]
    exact fun c hc => (List.mem_append.1 hc).elim (hb c) (he c)
  · intro h
    rw [trim, trimStart_of_blank h]
    rfl

/-! ## Lines -/

theorem lines_of_not_mem {s : List Char} (h : '\n' ∉ s) : lines s = [s] :=
  List.splitOn_eq_singleton h

theorem lines_append_lineFeed {l : List Char} (h : '\n' ∉ l) (s : List Char) :
    lines (l ++ '\n' :: s) = l :: lines s := by
  have hl : ∀ c ∈ l, (c == '\n') = false := by
    rintro c hc
    exact beq_false_of_ne (ne_of_mem_of_not_mem hc h)
  rw [lines, List.splitOn_eq_splitOnP,
    List.splitOnP_append_cons_of_forall_mem hl '\n' (by decide) s, ← List.splitOn_eq_splitOnP, lines]

theorem lines_unlines {ls : List (List Char)} (h : ∀ l ∈ ls, '\n' ∉ l) (hne : ls ≠ []) :
    lines (unlines ls) = ls :=
  List.splitOn_intercalate '\n' h hne

theorem unlines_lines (s : List Char) : unlines (lines s) = s :=
  List.intercalate_splitOn '\n'

theorem intercalate_append_singleton (sep : List Char) {ls : List (List Char)} (hne : ls ≠ [])
    (l : List Char) :
    List.intercalate sep (ls ++ [l]) = List.intercalate sep ls ++ sep ++ l := by
  induction ls with
  | nil => exact absurd rfl hne
  | cons a ls ih =>
      cases ls with
      | nil => simp [List.intercalate_cons_cons]
      | cons b ls =>
          have h := ih (by simp)
          simp only [List.cons_append, List.intercalate_cons_cons] at h ⊢
          rw [h]
          simp

theorem mem_intercalate_of_mem (sep : List Char) {ws : List (List Char)} {w : List Char}
    (hw : w ∈ ws) {c : Char} (hc : c ∈ w) : c ∈ List.intercalate sep ws := by
  induction ws with
  | nil => exact absurd hw (by simp)
  | cons v ws ih =>
      cases ws with
      | nil =>
          rw [List.mem_singleton.1 hw] at hc
          rwa [List.intercalate_singleton]
      | cons u ws =>
          rw [List.intercalate_cons_cons, List.mem_append, List.mem_append]
          rcases List.mem_cons.1 hw with rfl | hw
          · exact Or.inl (Or.inl hc)
          · exact Or.inr (ih hw)

theorem mem_unlines {ls : List (List Char)} {l : List Char} (hl : l ∈ ls) {c : Char} (hc : c ∈ l) :
    c ∈ unlines ls :=
  mem_intercalate_of_mem ['\n'] hl hc

theorem mem_intercalate {sep : List Char} {ws : List (List Char)} {c : Char}
    (h : c ∈ List.intercalate sep ws) : c ∈ sep ∨ ∃ w ∈ ws, c ∈ w := by
  induction ws with
  | nil => exact absurd h (by simp)
  | cons w ws ih =>
      cases ws with
      | nil =>
          rw [List.intercalate_singleton] at h
          exact Or.inr ⟨w, by simp, h⟩
      | cons v ws =>
          rw [List.intercalate_cons_cons, List.mem_append, List.mem_append] at h
          rcases h with (h | h) | h
          · exact Or.inr ⟨w, by simp, h⟩
          · exact Or.inl h
          · rcases ih h with h | ⟨u, hu, hc⟩
            · exact Or.inl h
            · exact Or.inr ⟨u, by simp [hu], hc⟩

theorem not_mem_intercalate {sep : List Char} {ws : List (List Char)} {c : Char} (hsep : c ∉ sep)
    (h : ∀ w ∈ ws, c ∉ w) : c ∉ List.intercalate sep ws := fun hmem =>
  (mem_intercalate hmem).elim hsep fun ⟨w, hw, hc⟩ => h w hw hc

theorem exists_intercalate_cons_eq (sep w : List Char) (ws : List (List Char)) :
    ∃ rest, List.intercalate sep (w :: ws) = w ++ rest := by
  cases ws with
  | nil => exact ⟨[], by simp⟩
  | cons v ws => exact ⟨_, by rw [List.intercalate_cons_cons, List.append_assoc]⟩

/-! ## Words -/

/-- A stretch of text without white space. -/
def IsWordRun (w : List Char) : Prop :=
  w ≠ [] ∧ ∀ c ∈ w, isBlank c = false

theorem isWordRun_of_isWord {w : List Char} (hne : w ≠ []) (h : ∀ c ∈ w, isWord c = true) :
    IsWordRun w :=
  ⟨hne, fun c hc => isBlank_of_isWord (h c hc)⟩

theorem isWordRun_span {p : Char → Bool} (hp : ∀ c, p c = true → isBlank c = false)
    {s : List Char} (hne : (s.span p).1 ≠ []) : IsWordRun (s.span p).1 := by
  refine ⟨hne, fun c hc => hp c ?_⟩
  rw [List.span_eq_takeWhile_dropWhile] at hc
  exact List.all_eq_true.1 List.all_takeWhile c hc

theorem not_of_mem_splitOnP {p : Char → Bool} {s w : List Char} (hw : w ∈ s.splitOnP p) :
    ∀ c ∈ w, p c = false ∧ c ∈ s := by
  induction s generalizing w with
  | nil =>
      rw [List.splitOnP_nil, List.mem_singleton] at hw
      simp [hw]
  | cons d s ih =>
      rw [List.splitOnP_cons_eq_if_modifyHead] at hw
      by_cases hd : p d = true
      · rw [if_pos hd, List.mem_cons] at hw
        rcases hw with rfl | hw
        · simp
        · intro c hc
          exact ⟨(ih hw c hc).1, by simp [(ih hw c hc).2]⟩
      · rw [if_neg hd] at hw
        cases hs : s.splitOnP p with
        | nil => exact absurd hs (List.splitOnP_ne_nil p s)
        | cons v vs =>
            rw [hs, List.modifyHead_cons, List.mem_cons] at hw
            intro c hc
            rcases hw with rfl | hw
            · rcases List.mem_cons.1 hc with rfl | hc
              · exact ⟨by simpa using hd, by simp⟩
              · have h := ih (w := v) (by simp [hs]) c hc
                exact ⟨h.1, by simp [h.2]⟩
            · have h := ih (w := w) (by simp [hs, hw]) c hc
              exact ⟨h.1, by simp [h.2]⟩

theorem lineFeed_not_mem_lines {s l : List Char} (h : l ∈ lines s) : '\n' ∉ l := by
  intro hmem
  rw [lines, List.splitOn_eq_splitOnP] at h
  exact absurd (not_of_mem_splitOnP h '\n' hmem).1 (by simp)

theorem isWordRun_of_mem_words {s w : List Char} (hw : w ∈ words s) : IsWordRun w := by
  rw [words, List.mem_filter] at hw
  exact ⟨by simpa using hw.2, fun c hc => (not_of_mem_splitOnP hw.1 c hc).1⟩

theorem mem_of_mem_words {s w : List Char} (hw : w ∈ words s) {c : Char} (hc : c ∈ w) : c ∈ s := by
  rw [words, List.mem_filter] at hw
  exact (not_of_mem_splitOnP hw.1 c hc).2

theorem words_intercalate {ws : List (List Char)} (h : ∀ w ∈ ws, IsWordRun w) :
    words (List.intercalate [' '] ws) = ws := by
  induction ws with
  | nil => rfl
  | cons w ws ih =>
      have hw := h w (by simp)
      cases ws with
      | nil =>
          rw [List.intercalate_singleton, words, List.splitOnP_eq_singleton hw.2]
          simp [hw.1]
      | cons v ws =>
          have htail := ih fun u hu => h u (by simp [hu])
          rw [List.intercalate_cons_cons, words, List.append_assoc, List.singleton_append,
            List.splitOnP_append_cons_of_forall_mem hw.2 ' ' (by decide)]
          rw [words] at htail
          rw [List.filter_cons, if_pos (by simpa using hw.1), htail]

theorem collapse_collapse (s : List Char) : collapse (collapse s) = collapse s := by
  rw [collapse, collapse, words_intercalate fun w hw => isWordRun_of_mem_words hw]

theorem mem_collapse {s : List Char} {c : Char} (h : c ∈ collapse s) :
    c = ' ' ∨ (isBlank c = false ∧ c ∈ s) := by
  rcases mem_intercalate h with h | ⟨w, hw, hc⟩
  · exact Or.inl (List.mem_singleton.1 h)
  · exact Or.inr ⟨(isWordRun_of_mem_words hw).2 c hc, mem_of_mem_words hw hc⟩

theorem lineFeed_not_mem_collapse (s : List Char) : '\n' ∉ collapse s := by
  intro h
  rcases mem_collapse h with h | h
  · exact absurd h (by decide)
  · exact absurd h.1 (by decide)

theorem stops_intercalate_space {ws : List (List Char)} (h : ∀ w ∈ ws, IsWordRun w) :
    Stops isBlank (List.intercalate [' '] ws) := by
  cases ws with
  | nil => exact stops_nil _
  | cons w ws =>
      obtain ⟨hne, hw⟩ := h w (by simp)
      obtain ⟨rest, hrest⟩ := exists_intercalate_cons_eq [' '] w ws
      rw [hrest]
      exact (stops_of_forall hw).append hne

theorem reverse_intercalate_space (ws : List (List Char)) :
    (List.intercalate [' '] ws).reverse =
      List.intercalate [' '] (ws.map List.reverse).reverse := by
  induction ws with
  | nil => rfl
  | cons w ws ih =>
      cases ws with
      | nil => simp
      | cons v ws =>
          have hne : ((v :: ws).map List.reverse).reverse ≠ [] := by simp
          have hlast : ((w :: v :: ws).map List.reverse).reverse =
              ((v :: ws).map List.reverse).reverse ++ [w.reverse] := List.reverse_cons
          rw [List.intercalate_cons_cons, List.reverse_append, List.reverse_append, ih, hlast,
            intercalate_append_singleton _ hne]
          simp

theorem isTrimmed_intercalate_space {ws : List (List Char)} (h : ∀ w ∈ ws, IsWordRun w) :
    IsTrimmed (List.intercalate [' '] ws) := by
  refine ⟨stops_intercalate_space h, ?_⟩
  rw [reverse_intercalate_space]
  apply stops_intercalate_space
  intro w hw
  obtain ⟨v, hv, rfl⟩ := List.mem_map.1 (List.mem_reverse.1 hw)
  exact ⟨by simpa using (h v hv).1, fun c hc => (h v hv).2 c (List.mem_reverse.1 hc)⟩

theorem isTrimmed_collapse (s : List Char) : IsTrimmed (collapse s) :=
  isTrimmed_intercalate_space fun _ hw => isWordRun_of_mem_words hw

/-! ## Lines of a text with one more character -/

/-- The lines of a text, the last one apart. -/
theorem exists_lines_eq_append (s : List Char) : ∃ front last, lines s = front ++ [last] :=
  (List.eq_nil_or_concat' (lines s)).resolve_left (List.splitOn_ne_nil '\n' s)

theorem lines_cons {c : Char} (hc : c ≠ '\n') {s l : List Char} {ls : List (List Char)}
    (h : lines s = l :: ls) : lines (c :: s) = (c :: l) :: ls := by
  rw [lines, List.splitOn_eq_splitOnP] at h ⊢
  rw [List.splitOnP_cons_eq_if_modifyHead, if_neg (by simpa using hc), h, List.modifyHead_cons]

theorem lines_append_singleton {c : Char} (hc : c ≠ '\n') {s last : List Char}
    {front : List (List Char)} (h : lines s = front ++ [last]) :
    lines (s ++ [c]) = front ++ [last ++ [c]] := by
  have hfeed : ∀ l ∈ front ++ [last], '\n' ∉ l := fun l hl => lineFeed_not_mem_lines (h ▸ hl)
  have htext : s ++ [c] = unlines (front ++ [last ++ [c]]) := by
    rw [← unlines_lines s, h, unlines, unlines]
    rcases List.eq_nil_or_concat' front with rfl | ⟨front, l, rfl⟩
    · simp
    · have hne : front ++ [l] ≠ [] := List.concat_ne_nil l front
      rw [intercalate_append_singleton _ hne last, intercalate_append_singleton _ hne (last ++ [c]),
        List.append_assoc _ last]
  rw [htext, lines_unlines _ (by simp)]
  intro l hl
  rcases List.mem_append.1 hl with hl | hl
  · exact hfeed l (List.mem_append_left _ hl)
  · rw [List.mem_singleton.1 hl, List.mem_append, List.mem_singleton, not_or]
    exact ⟨hfeed last (by simp), hc.symm⟩

theorem lines_append_lineFeed_end (s : List Char) : lines (s ++ ['\n']) = lines s ++ [[]] := by
  have htext : s ++ ['\n'] = unlines (lines s ++ [[]]) := by
    have hne : lines s ≠ [] := List.splitOn_ne_nil '\n' s
    rw [unlines, intercalate_append_singleton _ hne, List.append_nil]
    exact congrArg (· ++ ['\n']) (unlines_lines s).symm
  rw [htext, lines_unlines _ (by simp)]
  intro l hl
  rcases List.mem_append.1 hl with hl | hl
  · exact lineFeed_not_mem_lines hl
  · simp [List.mem_singleton.1 hl]

theorem length_lines (s : List Char) : (lines s).length = s.count '\n' + 1 := by
  induction s with
  | nil => rfl
  | cons c s ih =>
      by_cases hc : c = '\n'
      · subst hc
        have hlines : lines ('\n' :: s) = [] :: lines s :=
          lines_append_lineFeed List.not_mem_nil s
        rw [hlines, List.length_cons, ih, List.count_cons_self]
      · obtain ⟨l, ls, h⟩ := List.exists_cons_of_ne_nil (List.splitOn_ne_nil '\n' s)
        have hlines : lines (c :: s) = (c :: l) :: ls := lines_cons hc h
        rw [hlines, List.count_cons_of_ne hc, ← ih, lines, h, List.length_cons, List.length_cons]

/-! ## What is cut out of a text

Trimming, cutting and looking for words give parts of the text that they are applied to, so no
character comes out that was not there.
-/

theorem trimStart_subset (s : List Char) : trimStart s ⊆ s :=
  (List.dropWhile_suffix isBlank).subset

theorem trimEnd_subset (s : List Char) : trimEnd s ⊆ s :=
  (isPrefix_trimEnd s).subset

theorem trim_subset (s : List Char) : trim s ⊆ s :=
  (isInfix_trim s).subset

theorem trimEndChar_subset (c : Char) (s : List Char) : trimEndChar c s ⊆ s := by
  intro d hd
  exact List.mem_reverse.1 ((List.dropWhile_suffix _).subset (List.mem_reverse.1 hd))

theorem span_subset (p : Char → Bool) (s : List Char) : (s.span p).1 ⊆ s ∧ (s.span p).2 ⊆ s := by
  rw [List.span_eq_takeWhile_dropWhile]
  exact ⟨(List.takeWhile_prefix p).subset, (List.dropWhile_suffix p).subset⟩

theorem after?_subset {word : String} {s rest : List Char} (h : after? word s = some rest) :
    rest ⊆ s := by
  rw [← after?_eq_some_iff.1 h]
  exact List.subset_append_right _ _

theorem afterKeyword?_subset {word s rest : List Char} (h : afterKeyword? word s = some rest) :
    rest ⊆ s := by
  obtain ⟨w, rfl, -⟩ := afterKeyword?_eq_some h
  exact List.subset_append_right _ _

theorem beforeEnd?_subset {word : String} {s front : List Char}
    (h : beforeEnd? word s = some front) : front ⊆ s := by
  rw [← beforeEnd?_eq_some_iff.1 h]
  exact List.subset_append_left _ _

theorem cutAt?_subset {c : Char} {s front rest : List Char} (h : cutAt? c s = some (front, rest)) :
    front ⊆ s ∧ rest ⊆ s := by
  obtain ⟨hfront, hrest⟩ := span_subset (· != c) s
  rw [cutAt?] at h
  split at h
  · next heq =>
    obtain ⟨rfl, rfl⟩ := Prod.mk.inj (Option.some.inj h)
    rw [heq] at hfront hrest
    exact ⟨hfront, List.Subset.trans (List.subset_cons_self _ _) hrest⟩
  · exact absurd h (by simp)

theorem lines_subset {s l : List Char} (h : l ∈ lines s) : l ⊆ s := by
  intro c hc
  rw [← unlines_lines s]
  exact mem_unlines h hc

/-- A name and the text that stands behind it, both cut out of `s`. -/
structure IsNamedText (s name text : List Char) : Prop where
  isWordRun : IsWordRun name
  isTrimmed : IsTrimmed text
  subset : name ++ text ⊆ s

section

variable {s t name text : List Char}

theorem IsNamedText.mono (h : IsNamedText s name text) (hs : s ⊆ t) : IsNamedText t name text :=
  ⟨h.isWordRun, h.isTrimmed, List.Subset.trans h.subset hs⟩

theorem isNamedText_nil (hname : IsWordRun name) (hs : name ⊆ s) : IsNamedText s name [] :=
  ⟨hname, isTrimmed_of_forall (by simp), by rwa [List.append_nil]⟩

theorem isNamedText_trim (hname : IsWordRun name) (hs : name ⊆ s) (htext : text ⊆ s) :
    IsNamedText s name (trim text) :=
  ⟨hname, isTrimmed_trim text,
    List.append_subset.2 ⟨hs, List.Subset.trans (trim_subset text) htext⟩⟩

end

end DiagramBridge.Text
