import DiagramBridge.Mermaid.Reader
import DiagramBridge.Proofs.Mermaid.Brackets
import DiagramBridge.Proofs.Mermaid.Fence
import DiagramBridge.Proofs.Text.Case

/-!
# Texts that are called empty

The check calls a text empty by its first line alone, the reader by all lines between the fences. So
they can disagree: on a text with a blank line above its statements, and on a text that says nothing
below a comment, semicolons or a fence. The second kind does not pass the check, all the same: its
first line is of no known type.
-/

namespace DiagramBridge.Mermaid

open Text

/-! ## The first line -/

/-- There is nothing but white space on the first line. -/
def HasBlankFirstLine (text : String) : Prop :=
  ∀ c ∈ (lines text.toList).headD [], isBlank c = true

instance (text : String) : Decidable (HasBlankFirstLine text) :=
  inferInstanceAs (Decidable (∀ c ∈ (lines text.toList).headD [], isBlank c = true))

theorem hasBlankFirstLine_iff {text : String} :
    HasBlankFirstLine text ↔ trim ((lines text.toList).headD []) = [] :=
  trim_eq_nil_iff.symm

theorem check_of_hasBlankFirstLine {text : String} (h : HasBlankFirstLine text) :
    check text = [.empty] := by
  rw [hasBlankFirstLine_iff] at h
  rw [check]
  simp only [h]
  rfl

theorem check_of_not_hasBlankFirstLine {text : String} (h : ¬ HasBlankFirstLine text) :
    check text =
      (if knownTypes.any (startsWith · (lower (trim ((lines text.toList).headD [])))) then []
       else [.unknownType]) ++ bracketIssues (lines text.toList) := by
  rw [hasBlankFirstLine_iff, ← List.isEmpty_iff] at h
  rw [check]
  exact if_neg h

theorem empty_mem_check_iff {text : String} : .empty ∈ check text ↔ HasBlankFirstLine text := by
  refine ⟨fun hmem => ?_, fun h => by simp [check_of_hasBlankFirstLine h]⟩
  by_contra h
  rw [check_of_not_hasBlankFirstLine h, List.mem_append] at hmem
  rcases hmem with hmem | hmem
  · split_ifs at hmem
    · exact absurd hmem List.not_mem_nil
    · exact absurd (List.mem_singleton.1 hmem) (by simp)
  · exact absurd (isSome_bracket?_of_mem_bracketIssues hmem) (by simp [Issue.bracket?])

/-! ## Texts without statements -/

theorem read_eq_emptyMermaid_iff {text : String} :
    read text = .error .emptyMermaid ↔
      ∀ line ∈ lines (unfence text.toList), isContent (statement line) = false := by
  have hstatements : statements text.toList = [] ↔
      ∀ line ∈ lines (unfence text.toList), isContent (statement line) = false := by
    simp [statements, List.filter_eq_nil_iff]
  rw [← hstatements, read]
  split
  · next hnil => simp [hnil]
  · next first rest hcons =>
    dsimp only
    split <;> simp [hcons]

/-- The characters that can begin a text without statements, white space apart. -/
def silentStarts : List Char := [';', '%', '\x60']

/-- A line that says nothing is blank, or it begins with semicolons or a comment. -/
theorem head_of_isContent_eq_false {line t : List Char} {c : Char} (h : trimStart line = c :: t)
    (hcontent : isContent (statement line) = false) : c ∈ silentStarts := by
  by_cases hc : c = ';'
  · simp [silentStarts, hc]
  · obtain ⟨u, hu⟩ := exists_statement_cons h hc
    rw [hu, isContent, List.isEmpty_cons, Bool.not_false, Bool.true_and, Bool.not_eq_false',
      startsWith_iff] at hcontent
    obtain ⟨v, hv⟩ := hcontent
    rw [← (List.cons.inj hv).1]
    decide

/-- The first line of a text without statements is blank, or it begins with semicolons, a comment or
a fence. -/
theorem head_of_read_eq_emptyMermaid {text : String} (hread : read text = .error .emptyMermaid)
    {c : Char} {t : List Char} (h : trimStart ((lines text.toList).headD []) = c :: t) :
    c ∈ silentStarts := by
  obtain ⟨first, rest, hlines⟩ := List.exists_cons_of_ne_nil (List.splitOn_ne_nil '\n' text.toList)
  have hfirst : (lines text.toList).headD [] = first := by rw [lines, hlines, List.headD_cons]
  rw [hfirst] at h
  cases hbody : fencedBody? text.toList with
  | none =>
      rw [read_eq_emptyMermaid_iff, unfence, hbody] at hread
      exact head_of_isContent_eq_false h (hread first (by simp [lines, hlines]))
  | some body =>
      obtain ⟨e, -, hsplit⟩ := exists_unlines_cons first rest
      have htext : text.toList = first ++ (e ++ unlines rest) := by
        rw [← hsplit, ← hlines]
        exact (unlines_lines text.toList).symm
      have hstart : trimStart text.toList = c :: t ++ (e ++ unlines rest) := by
        rw [htext, trimStart, List.dropWhile_append, ← trimStart, h, List.isEmpty_cons,
          if_neg Bool.false_ne_true]
      have hfence : after? fence (trimStart text.toList) ≠ none := by
        intro hnone
        rw [fencedBody?, hnone] at hbody
        exact absurd hbody (by simp)
      obtain ⟨u, hu⟩ := Option.ne_none_iff_exists'.1 hfence
      rw [after?_eq_some_iff, hstart] at hu
      rw [← (List.cons.inj hu).1]
      decide

theorem not_startsWith_lower {k : String} (hk : k ∈ knownTypes) {c : Char} (hc : c ∈ silentStarts)
    (t : List Char) : startsWith k (lower (c :: t)) = false := by
  have hcase : ∀ c ∈ silentStarts, c.toNat < 0x80 ∧ asciiLower c = c := by decide
  have hkinds : ∀ k ∈ knownTypes, k.toList ≠ [] ∧ ∀ c ∈ silentStarts, k.toList.head? ≠ some c := by
    decide
  obtain ⟨hascii, hsmall⟩ := hcase c hc
  obtain ⟨hne, hhead⟩ := hkinds k hk
  rw [lower, lowerAfter, if_pos hascii, hsmall, ← Bool.not_eq_true, startsWith_iff]
  intro hprefix
  obtain ⟨d, w, hw⟩ := List.exists_cons_of_ne_nil hne
  rw [hw, List.cons_prefix_cons] at hprefix
  apply hhead c hc
  rw [hw, hprefix.1, List.head?_cons]

/-- A text without statements does not pass the check: it is called empty, or of unknown type. -/
theorem mem_check_of_read_eq_emptyMermaid {text : String}
    (hread : read text = .error .emptyMermaid) :
    (if HasBlankFirstLine text then Issue.empty else Issue.unknownType) ∈ check text := by
  split_ifs with hfirst
  · exact empty_mem_check_iff.2 hfirst
  · rw [check_of_not_hasBlankFirstLine hfirst]
    let first := (lines text.toList).headD []
    have hne : trimStart first ≠ [] := by
      rw [hasBlankFirstLine_iff] at hfirst
      intro hnil
      apply hfirst
      rw [trim, hnil]
      rfl
    obtain ⟨c, t, hstart⟩ := List.exists_cons_of_ne_nil hne
    have hblank : isBlank c = false := by
      have hstops : Stops isBlank (c :: t) := hstart ▸ stops_dropWhile isBlank first
      exact stops_cons_iff.1 hstops
    obtain ⟨u, hu⟩ := exists_dropEnd_cons hblank t
    have htrim : trim first = c :: u := by rw [trim, hstart, trimEnd, hu]
    have hsilent : c ∈ silentStarts := head_of_read_eq_emptyMermaid hread hstart
    have hunknown : knownTypes.any (startsWith · (lower (trim first))) = false := by
      rw [htrim, List.any_eq_false]
      intro k hk
      rw [not_startsWith_lower hk hsilent u]
      exact Bool.false_ne_true
    rw [hunknown]
    exact List.mem_cons_self

theorem read_of_blank {text : String} (h : ∀ c ∈ text.toList, isBlank c = true) :
    read text = .error .emptyMermaid := by
  have hunfenced : unfence text.toList = text.toList := by
    rw [unfence, fencedBody?, trimStart_of_blank h]
    rfl
  rw [read_eq_emptyMermaid_iff, hunfenced]
  intro line hline
  rw [statement_of_blank (trimStart_of_blank fun c hc => h c (lines_subset hline hc))]
  rfl

/-- The check calls those texts empty whose first line is blank, the reader those with no line that
says something between the fences. A text that the reader calls empty does not pass the check, and
both call a text empty that is nothing but white space. -/
theorem emptiness_of_check_and_read (text : String) :
    (.empty ∈ check text ↔ HasBlankFirstLine text) ∧
      (read text = .error .emptyMermaid ↔
        ∀ line ∈ lines (unfence text.toList), isContent (statement line) = false) ∧
      (read text = .error .emptyMermaid →
        (if HasBlankFirstLine text then Issue.empty else Issue.unknownType) ∈ check text) ∧
      ((∀ c ∈ text.toList, isBlank c = true) →
        .empty ∈ check text ∧ read text = .error .emptyMermaid) := by
  refine ⟨empty_mem_check_iff, read_eq_emptyMermaid_iff, mem_check_of_read_eq_emptyMermaid,
    fun hblank => ⟨empty_mem_check_iff.2 fun c hc => hblank c ?_, read_of_blank hblank⟩⟩
  obtain ⟨first, rest, hlines⟩ := List.exists_cons_of_ne_nil (List.splitOn_ne_nil '\n' text.toList)
  rw [lines, hlines, List.headD_cons] at hc
  exact lines_subset (by simp [lines, hlines]) hc

/-- A flowchart below a blank line. -/
def loweredText : String := "\nflowchart TD\nA --> B"

/-- A text with nothing but a comment. -/
def commentText : String := "%% nothing yet"

/-- The check calls a flowchart empty that is read without trouble, and it calls a text not empty
that the reader refuses for being so. -/
theorem not_agree_loweredText_commentText :
    (check loweredText = [.empty] ∧
      (read loweredText).toOption.map (·.graph.nodeIds) = some ["A", "B"]) ∧
    (check commentText = [.unknownType] ∧ read commentText = .error .emptyMermaid) ∧
    ¬ ∀ text, .empty ∈ check text ↔ read text = .error .emptyMermaid := by
  have hlowered : check loweredText = [.empty] := by decide +kernel
  have hcomment : read commentText = .error .emptyMermaid := rfl
  have hcheck : check commentText = [.unknownType] := by decide +kernel
  refine ⟨⟨hlowered, by decide +kernel⟩, ⟨hcheck, hcomment⟩, fun h => ?_⟩
  have hmem := (h commentText).2 hcomment
  rw [hcheck] at hmem
  exact absurd hmem (by decide)

end DiagramBridge.Mermaid
