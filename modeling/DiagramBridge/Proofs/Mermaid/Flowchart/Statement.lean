import DiagramBridge.Mermaid.Flowchart.Reader
import DiagramBridge.Proofs.Text.Blank
import DiagramBridge.Proofs.Text.Search

/-!
# Which lines are chains

A line is a chain of nodes unless a word at its front gives it another meaning. Of the lines that begin
with a word and go on with more than letters, those are no chains whose word begins like the one that
opens a subgraph, or is one that with a space behind it begins a statement about looks.
-/

namespace DiagramBridge.Mermaid.Flowchart

open Text

/-- A character that occurs in no statement about directions. -/
def IsMark (c : Char) : Prop :=
  isBlank c = false ∧ isWord c = false ∧
    ∀ w ∈ "direction" :: directionWords, foldLetter c ∉ w.toList

instance (c : Char) : Decidable (IsMark c) :=
  inferInstanceAs (Decidable (_ ∧ _ ∧ _))

theorem not_isDirectionLine_of_foldLetter {line : List Char} {c : Char} (hc : c ∈ line)
    (hblank : isBlank c = false)
    (hfold : ∀ w ∈ "direction" :: directionWords, foldLetter c ∉ w.toList) :
    isDirectionLine line = false := by
  have hbare : ∀ s, c ∈ s →
      (directionWords.any fun w => afterKeyword? w.toList s == some []) = false := by
    intro s hs
    rw [List.any_eq_false]
    intro w hw hbare
    rw [beq_iff_eq] at hbare
    exact hfold w (List.mem_cons_of_mem _ hw) (foldLetter_mem_of_afterKeyword? hbare hs)
  rw [isDirectionLine]
  simp only [hbare line hc, Bool.false_or]
  split
  · next b rest hafter =>
    obtain ⟨w, hline, hw⟩ := afterKeyword?_eq_some hafter
    rw [hline, List.mem_append, List.mem_cons] at hc
    rcases hc with hc | rfl | hc
    · exact absurd (hw ▸ List.mem_map_of_mem hc) (hfold "direction" (by simp))
    · rw [hblank, Bool.false_and]
    · rw [hbare _ (mem_trimStart hblank hc), Bool.and_false]
  · rfl

theorem not_isDirectionLine {line : List Char} {c : Char} (hc : c ∈ line) (hmark : IsMark c) :
    isDirectionLine line = false :=
  not_isDirectionLine_of_foldLetter hc hmark.1 hmark.2.2

theorem ofOpening_cases (rest : List Char) :
    (∃ id label, Statement.ofOpening rest = .opening id label) ∨
      Statement.ofOpening rest = .openingUnnamed := by
  rw [Statement.ofOpening]
  split
  · exact .inl ⟨_, _, rfl⟩
  · dsimp only
    split
    · exact .inr rfl
    · exact .inl ⟨_, _, rfl⟩

/-- A line that is read as a chain of nodes and arrows, and as no statement of another kind. -/
def IsChainLine (line : List Char) : Prop :=
  Statement.ofLine line = .chain (.ofLine line)

theorem isChainLine_iff {line : List Char} :
    IsChainLine line ↔ isDirectionLine line = false ∧ (∀ v ∈ skippedWords, ¬ v.toList <+: line) ∧
      ¬ "subgraph".toList <+: line ∧ line ≠ "end".toList := by
  have hskipped : (∀ v ∈ skippedWords, ¬ v.toList <+: line) ↔
      (skippedWords.any (startsWith · line)) = false := by
    rw [List.any_eq_false]
    exact forall₂_congr fun v _ => not_congr startsWith_iff.symm
  rw [hskipped, IsChainLine, Statement.ofLine, ← and_assoc, ← Bool.or_eq_false_iff, ← Bool.not_eq_true]
  by_cases hother : (isDirectionLine line || skippedWords.any (startsWith · line)) = true
  · rw [if_pos hother]
    exact iff_of_false (by simp) fun h => h.1 hother
  · rw [if_neg hother]
    cases hopening : after? "subgraph" line with
    | some rest =>
        refine iff_of_false ?_ fun h => h.2.1 ⟨rest, after?_eq_some_iff.1 hopening⟩
        rcases ofOpening_cases rest with ⟨id, label, h⟩ | h
        · simp [h]
        · simp [h]
    | none =>
        by_cases hend : line = "end".toList
        · exact iff_of_false (by simp [hend]) fun h => h.2.2 hend
        · dsimp only
          rw [if_neg hend]
          exact iff_of_true rfl ⟨hother, after?_eq_none_iff.1 hopening, hend⟩

/-- A word with a space behind it makes a line a statement about looks in one case only. -/
theorem isPrefix_skipped_iff {v : String} (hv : v ∈ skippedWords) {w rest : List Char}
    (hw : ∀ c ∈ w, isWord c = true) (hrest : Stops isWord rest) :
    v.toList <+: w ++ rest ↔ v.toList = w ++ [' '] ∧ ∃ t, rest = ' ' :: t := by
  have hforms : ∀ v ∈ skippedWords, ∃ u, v.toList = u ++ [' '] ∧ ∀ c ∈ u, isWord c = true := by
    intro v hv
    simp only [skippedWords, List.mem_cons, List.not_mem_nil, or_false] at hv
    rcases hv with rfl | rfl | rfl | rfl | rfl
    · exact ⟨"style".toList, rfl, by decide⟩
    · exact ⟨"classDef".toList, rfl, by decide⟩
    · exact ⟨"class".toList, rfl, by decide⟩
    · exact ⟨"linkStyle".toList, rfl, by decide +kernel⟩
    · exact ⟨"click".toList, rfl, by decide⟩
  obtain ⟨u, hu, huword⟩ := hforms v hv
  constructor
  · rintro ⟨t, ht⟩
    rw [hu, List.append_assoc] at ht
    have hspace : Stops isWord ([' '] ++ t) := stops_cons_iff.2 (by decide)
    obtain rfl : u = w := run_eq_of_append_eq huword hw hspace hrest ht
    exact ⟨hu, t, (List.append_cancel_left ht).symm⟩
  · rintro ⟨hv, t, rfl⟩
    exact ⟨t, by rw [hv, List.append_assoc, List.singleton_append]⟩

/-- A line that begins with a word and has a mark behind it is a chain unless the word has a meaning
of its own. -/
theorem isChainLine_word_iff {w rest : List Char} {c : Char} (hw : ∀ c ∈ w, isWord c = true)
    (hrest : Stops isWord rest) (hc : c ∈ rest) (hmark : IsMark c) :
    IsChainLine (w ++ rest) ↔
      (∀ v ∈ skippedWords, v.toList = w ++ [' '] → ∀ t, rest ≠ ' ' :: t) ∧
        ¬ "subgraph".toList <+: w := by
  have hline : c ∈ w ++ rest := List.mem_append_right _ hc
  have hend : w ++ rest ≠ "end".toList := by
    intro h
    have hword : ∀ d ∈ "end".toList, isWord d = true := by decide
    rw [h] at hline
    exact ne_of_isWord (hword c hline) hmark.2.1 rfl
  have hopening : "subgraph".toList <+: w ++ rest ↔ "subgraph".toList <+: w :=
    ⟨isPrefix_of_append (p := isWord) (by decide) hrest,
      fun h => h.trans (List.prefix_append _ _)⟩
  have hskipped : (∀ v ∈ skippedWords, ¬ v.toList <+: w ++ rest) ↔
      ∀ v ∈ skippedWords, v.toList = w ++ [' '] → ∀ t, rest ≠ ' ' :: t := by
    refine forall₂_congr fun v hv => ?_
    rw [isPrefix_skipped_iff hv hw hrest, not_and, not_exists]
  rw [isChainLine_iff, hskipped, hopening]
  simp only [not_isDirectionLine hline hmark, hend, true_and, ne_eq, not_false_eq_true, and_true]

end DiagramBridge.Mermaid.Flowchart
