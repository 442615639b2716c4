import DiagramBridge.Drawio.Label
import DiagramBridge.Proofs.Text.Blank
import DiagramBridge.Proofs.Text.Search

/-!
# Cleaning undoes writing

The value of a cell is its label as HTML. Cleaning rewrites that value in five stages; on a written
value each stage meets only what writing put there: line-break tags, which become line feeds again,
and the names of the markup characters, which become those characters. Neither a tag nor a
non-breaking space can stand in a written value, whatever the label looks like. What is left is the
label itself, so a label comes back in its normal form.

A label of one line that is collapsed and has no character with a meaning in Mermaid is its own
normal form.
-/

namespace DiagramBridge.Drawio

open Text

/-! ## The stages on a written value -/

theorem escape_cons (c : Char) (s : List Char) :
    Html.escape (c :: s) = Html.escapeChar c ++ Html.escape s :=
  List.flatMap_cons

/-- The four ways in which a character is written. -/
theorem escapeChar_cases (c : Char) :
    (c = '&' ∧ Html.escapeChar c = "&amp;".toList) ∨
      (c = '<' ∧ Html.escapeChar c = "&lt;".toList) ∨
        (c = '>' ∧ Html.escapeChar c = "&gt;".toList) ∨
          (c ≠ '&' ∧ c ≠ '<' ∧ Html.escapeChar c = [c]) := by
  rw [Html.escapeChar]
  split_ifs with h1 h2 h3
  · exact Or.inl ⟨h1, rfl⟩
  · exact Or.inr (Or.inl ⟨h2, rfl⟩)
  · exact Or.inr (Or.inr (Or.inl ⟨h3, rfl⟩))
  · exact Or.inr (Or.inr (Or.inr ⟨h1, h2, rfl⟩))

theorem lt_not_mem_escape (s : List Char) : '<' ∉ Html.escape s := by
  intro h
  obtain ⟨c, -, hc⟩ := List.mem_flatMap.1 h
  rcases escapeChar_cases c with ⟨-, he⟩ | ⟨-, he⟩ | ⟨-, he⟩ | ⟨-, hlt, he⟩
  · exact absurd (he ▸ hc) (by decide)
  · exact absurd (he ▸ hc) (by decide)
  · exact absurd (he ▸ hc) (by decide)
  · rw [he] at hc
    exact hlt (List.mem_singleton.1 hc).symm

/-- A rule that looks for a tag does not apply where no tag begins. -/
theorem replacing_eq_none {rest? : List Char → Option (List Char)} {new : List Char} {c : Char}
    {t : List Char} (h : rest? (c :: t) = none) : replacing rest? new (c :: t) = none := by
  rw [replacing, h]
  rfl

theorem after?_tag_eq_none (word : List Char) {c : Char} (hc : c ≠ '<') (t : List Char) :
    after? (String.ofList ('<' :: word)) (c :: t) = none := by
  rw [after?_eq_none_iff]
  rintro ⟨r, hr⟩
  rw [String.toList_ofList] at hr
  exact hc (List.cons.inj hr).1.symm

theorem breakRule_of_ne {c : Char} (hc : c ≠ '<') (t : List Char) :
    replacing (fun s => (afterBreakTag? s).or (afterBlockTag? s)) ['\n'] (c :: t) = none := by
  have h : after? "<" (c :: t) = none := after?_tag_eq_none [] hc t
  refine replacing_eq_none ?_
  simp [afterBreakTag?, afterBlockTag?, h]

theorem blockEndRule_of_ne {c : Char} (hc : c ≠ '<') (t : List Char) :
    replacing afterBlockEnd? [] (c :: t) = none := by
  have h : after? "</" (c :: t) = none := after?_tag_eq_none ['/'] hc t
  refine replacing_eq_none ?_
  simp [afterBlockEnd?, h]

theorem tagRule_of_ne {c : Char} (hc : c ≠ '<') (t : List Char) :
    replacing afterTag? [] (c :: t) = none := by
  have h : after? "<" (c :: t) = none := after?_tag_eq_none [] hc t
  refine replacing_eq_none ?_
  simp [afterTag?, h]

/-- Written line breaks become line feeds. -/
theorem rewrite_breaks (ls : List (List Char)) (h : ∀ l ∈ ls, '<' ∉ l) :
    rewrite (replacing (fun s => (afterBreakTag? s).or (afterBlockTag? s)) ['\n'])
        (List.intercalate "<br>".toList ls) = unlines ls := by
  induction ls with
  | nil => rfl
  | cons l ls ih =>
      have hl : ∀ c ∈ l, ∀ t,
          replacing (fun s => (afterBreakTag? s).or (afterBlockTag? s)) ['\n'] (c :: t) = none :=
        fun c hc => breakRule_of_ne fun heq => h l (by simp) (heq ▸ hc)
      cases ls with
      | nil =>
          rw [List.intercalate_singleton, rewrite_of_none hl]
          simp [unlines]
      | cons m ls =>
          have hm := ih fun k hk => h k (by simp [hk])
          have hbreak : ∀ rest, rewrite (replacing (fun s => (afterBreakTag? s).or
              (afterBlockTag? s)) ['\n']) ("<br>".toList ++ rest) =
                ['\n'] ++ rewrite (replacing (fun s => (afterBreakTag? s).or
                  (afterBlockTag? s)) ['\n']) rest := by
            intro rest
            have hrest : (afterBreakTag? ('<' :: (['b', 'r', '>'] ++ rest))).or
                (afterBlockTag? ('<' :: (['b', 'r', '>'] ++ rest))) = some rest := rfl
            refine rewrite_append_of_some (c := '<') (s := ['b', 'r', '>']) ?_
            rw [replacing, hrest]
            simp [stretch]
            omega
          rw [List.intercalate_cons_cons, List.append_assoc, rewrite_append_of_none hl, hbreak, hm]
          simp [unlines, List.intercalate_cons_cons]

theorem escape_unlines (ls : List (List Char)) :
    Html.escape (unlines ls) = unlines (ls.map Html.escape) := by
  induction ls with
  | nil => rfl
  | cons l ls ih =>
      cases ls with
      | nil => simp [unlines]
      | cons m ls =>
          simp only [unlines, Html.escape, List.map_cons, List.intercalate_cons_cons,
            List.flatMap_append] at ih ⊢
          rw [ih]
          rfl

theorem literally_eq_none {old new s : List Char} (h : ¬ old <+: s) : literally old new s = none := by
  rw [literally, isPrefixOf?_eq_none_iff.2 h]
  rfl

/-- A name other than that of the non-breaking space stays as it is. -/
theorem rewrite_space_name {w : List Char} {d : Char} (hd : d ≠ 'n') (hw : '&' ∉ d :: w)
    (t : List Char) :
    rewrite (literally "&nbsp;".toList [' ']) ('&' :: (d :: w ++ t)) =
      '&' :: (d :: w ++ rewrite (literally "&nbsp;".toList [' ']) t) := by
  have hfront : literally "&nbsp;".toList [' '] ('&' :: (d :: w ++ t)) = none := by
    refine literally_eq_none ?_
    rintro ⟨r, hr⟩
    exact hd (List.cons.inj (List.cons.inj hr).2).1.symm
  have hinner : ∀ e ∈ d :: w, ∀ u, literally "&nbsp;".toList [' '] (e :: u) = none := by
    intro e he u
    refine literally_eq_none ?_
    rintro ⟨r, hr⟩
    have heq : e = '&' := (List.cons.inj hr).1.symm
    exact hw (heq ▸ he)
  rw [rewrite_cons_of_none hfront, rewrite_append_of_none hinner]

/-- No written character begins a non-breaking space. -/
theorem rewrite_space_escape (s : List Char) :
    rewrite (literally "&nbsp;".toList [' ']) (Html.escape s) = Html.escape s := by
  induction s with
  | nil => rfl
  | cons c s ih =>
      rw [escape_cons]
      rcases escapeChar_cases c with ⟨-, he⟩ | ⟨-, he⟩ | ⟨-, he⟩ | ⟨hamp, -, he⟩
      · rw [he]
        refine (rewrite_space_name (w := "mp;".toList) (d := 'a') (by decide) (by decide) _).trans ?_
        rw [ih]
        rfl
      · rw [he]
        refine (rewrite_space_name (w := "t;".toList) (d := 'l') (by decide) (by decide) _).trans ?_
        rw [ih]
        rfl
      · rw [he]
        refine (rewrite_space_name (w := "t;".toList) (d := 'g') (by decide) (by decide) _).trans ?_
        rw [ih]
        rfl
      · have hfront : literally "&nbsp;".toList [' '] (c :: Html.escape s) = none := by
          refine literally_eq_none ?_
          rintro ⟨r, hr⟩
          exact hamp (List.cons.inj hr).1.symm
        rw [he, List.singleton_append, rewrite_cons_of_none hfront, ih]

/-- The names of the markup characters become the characters. -/
theorem unescape_escape (s : List Char) : Html.unescape (Html.escape s) = s := by
  induction s with
  | nil => rfl
  | cons c s ih =>
      rw [escape_cons, Html.unescape]
      rw [Html.unescape] at ih
      rcases escapeChar_cases c with ⟨rfl, he⟩ | ⟨rfl, he⟩ | ⟨rfl, he⟩ | ⟨hamp, -, he⟩
      · rw [he]
        refine (rewrite_append_of_some (c := '&') (s := "amp;".toList) (n := ['&']) rfl).trans ?_
        rw [ih]
        rfl
      · rw [he]
        refine (rewrite_append_of_some (c := '&') (s := "lt;".toList) (n := ['<']) rfl).trans ?_
        rw [ih]
        rfl
      · rw [he]
        refine (rewrite_append_of_some (c := '&') (s := "gt;".toList) (n := ['>']) rfl).trans ?_
        rw [ih]
        rfl
      -- Any other character stays as it is, and no reference begins with it.
      · have hfront : Html.charRef (c :: Html.escape s) = none := by
          rw [Html.charRef.eq_def]
          split
          · next heq =>
            exact absurd (List.cons.inj heq).1 hamp
          · next heq =>
            exact absurd (List.cons.inj heq).1 hamp
          · rfl
        rw [he, List.singleton_append, rewrite_cons_of_none hfront, ih]

/-- The plain text of a written value is the label. -/
theorem plainText_cellValue (s : List Char) : plainText (cellValue s) = s := by
  have hlines : ∀ l ∈ (lines s).map Html.escape, '<' ∉ l := by
    intro l hl
    obtain ⟨m, -, rfl⟩ := List.mem_map.1 hl
    exact lt_not_mem_escape m
  have hunlines : unlines ((lines s).map Html.escape) = Html.escape s := by
    rw [← escape_unlines, unlines_lines]
  have hlt : ∀ c ∈ Html.escape s, c ≠ '<' := fun c hc heq => lt_not_mem_escape s (heq ▸ hc)
  rw [plainText, cellValue, rewrite_breaks _ hlines, hunlines,
    rewrite_of_none fun c hc => blockEndRule_of_ne (hlt c hc), rewrite_space_escape,
    rewrite_of_none fun c hc => tagRule_of_ne (hlt c hc), unescape_escape]

/-- A label comes back from its cell in its normal form. -/
theorem clean_cellValue (s : List Char) : clean (cellValue s) = normalize s := by
  rw [clean, plainText_cellValue]

/-- A label in its normal form, at the level of strings. -/
def normalLabel (s : String) : String :=
  onChars normalize s

theorem cleanString_cellValueString (s : String) :
    cleanString (cellValueString s) = normalLabel s := by
  simp [cleanString, cellValueString, normalLabel, onChars, clean_cellValue]

/-! ## Labels that are normal -/

/-- A label of one line as cleaning leaves it: collapsed, and without the characters that Mermaid
gives a meaning to. -/
structure IsNormalLine (s : List Char) : Prop where
  collapsed : collapse s = s
  noQuote : '"' ∉ s
  noOpening : '[' ∉ s
  noClosing : ']' ∉ s

instance (s : List Char) : Decidable (IsNormalLine s) :=
  decidable_of_iff (collapse s = s ∧ '"' ∉ s ∧ '[' ∉ s ∧ ']' ∉ s)
    ⟨fun h => ⟨h.1, h.2.1, h.2.2.1, h.2.2.2⟩,
      fun h => ⟨h.collapsed, h.noQuote, h.noOpening, h.noClosing⟩⟩

theorem IsNormalLine.lineFeed_not_mem {s : List Char} (h : IsNormalLine s) : '\n' ∉ s := by
  rw [← h.collapsed]
  exact lineFeed_not_mem_collapse s

theorem IsNormalLine.isTrimmed {s : List Char} (h : IsNormalLine s) : IsTrimmed s := by
  rw [← h.collapsed]
  exact isTrimmed_collapse s

theorem normalize_of_isNormalLine {s : List Char} (h : IsNormalLine s) : normalize s = s := by
  have hplain : s.map plainChar = s := by
    rw [← List.map_id s, List.map_map]
    refine List.map_congr_left fun c hc => ?_
    have h1 : c ≠ '"' := fun heq => h.noQuote (heq ▸ hc)
    have h2 : c ≠ '[' := fun heq => h.noOpening (heq ▸ hc)
    have h3 : c ≠ ']' := fun heq => h.noClosing (heq ▸ hc)
    simp [plainChar, h1, h2, h3]
  rw [normalize, tidyLines, lines_of_not_mem h.lineFeed_not_mem, List.map_singleton, h.collapsed]
  cases s with
  | nil => rfl
  | cons c s =>
      rw [List.filter_cons_of_pos (by simp), List.filter_nil, unlines, List.intercalate_singleton,
        hplain]

theorem normalLabel_of_isNormalLine {s : String} (h : IsNormalLine s.toList) :
    normalLabel s = s := by
  rw [normalLabel, onChars, normalize_of_isNormalLine h, String.ofList_toList]

end DiagramBridge.Drawio
