import DiagramBridge.Mermaid.Statements
import DiagramBridge.Proofs.Text.Blank
import Mathlib.Data.List.Forall2

/-!
# Statements of written lines

A written text has its statements indented, one on a line. Reading gives them back in order as long
as none ends in a semicolon, and a text that begins with no fence is read as it stands. What ends a
line is taken from its end alone, so a label at the end of a line is read as if it were a line of its
own.
-/

namespace DiagramBridge.Mermaid

open Text

/-- A character that is taken away where it ends a line. -/
def isLineEnd (c : Char) : Bool :=
  isBlank c || c == ';'

theorem isLineEnd_of_isWord {c : Char} (hc : isWord c = true) : isLineEnd c = false := by
  rw [isLineEnd, isBlank_of_isWord hc, Bool.false_or, beq_eq_false_iff_ne]
  exact ne_of_isWord hc (by decide)

theorem stops_reverse_of_word {w : List Char} (hw : ∀ c ∈ w, isWord c = true) :
    Stops isLineEnd w.reverse :=
  stops_of_forall fun c hc => isLineEnd_of_isWord (hw c (List.mem_reverse.1 hc))

/-- A statement that is read from its line as it is. -/
structure IsStatement (s : List Char) : Prop where
  content : isContent s = true
  start : Stops isBlank s
  ending : Stops isLineEnd s.reverse
  oneLine : '\n' ∉ s

theorem IsStatement.isTrimmed {s : List Char} (h : IsStatement s) : IsTrimmed s :=
  ⟨h.start, h.ending.mono fun _ hc => (Bool.or_eq_false_iff.1 hc).1⟩

theorem isContent_cons {c : Char} (hc : c ≠ '%') (s : List Char) : isContent (c :: s) = true := by
  have hcomment : startsWith "%%" (c :: s) = false := by
    rw [← Bool.not_eq_true, startsWith_iff]
    rintro ⟨t, ht⟩
    exact hc (List.cons.inj ht).1.symm
  rw [isContent, hcomment]
  rfl

/-- A line that begins with a word is a statement if no white space and no semicolon ends it. -/
theorem isStatement_of_word {w rest : List Char} (hne : w ≠ []) (hw : ∀ c ∈ w, isWord c = true)
    (hending : Stops isLineEnd (w ++ rest).reverse) (hline : '\n' ∉ rest) :
    IsStatement (w ++ rest) := by
  have hblank : Stops isBlank w := stops_of_forall fun c hc => isBlank_of_isWord (hw c hc)
  refine ⟨?_, hblank.append hne, hending, fun hmem => ?_⟩
  · obtain ⟨c, w, rfl⟩ := List.exists_cons_of_ne_nil hne
    exact isContent_cons (ne_of_isWord (hw c (by simp)) (by decide)) _
  · rcases List.mem_append.1 hmem with hmem | hmem
    · exact lineFeed_not_mem_of_word hw hmem
    · exact hline hmem

/-- A line that holds a statement behind an indentation of spaces. -/
def HoldsStatement (line s : List Char) : Prop :=
  IsStatement s ∧ ∃ b, (∀ c ∈ b, c = ' ') ∧ line = b ++ s

/-- A line of one statement, whatever stands around it. -/
structure IsReadAs (line s : List Char) : Prop where
  oneLine : '\n' ∉ line
  content : isContent s = true
  statement_eq : statement line = s

theorem IsStatement.isReadAs {b s e : List Char} (hs : IsStatement s) (hb : ∀ c ∈ b, c = ' ')
    (he : ∀ c ∈ e, c = ' ') : IsReadAs (b ++ s ++ e) s := by
  have hblank : ∀ c, c = ' ' → isBlank c = true := by
    rintro c rfl
    decide
  have htrim : trim (b ++ s ++ e) = s :=
    trim_append_append (fun c hc => hblank c (hb c hc)) (fun c hc => hblank c (he c hc)) hs.isTrimmed
  have hsemicolon : s.reverse.dropWhile (· == ';') = s.reverse :=
    dropWhile_of_stops (hs.ending.mono fun _ hc => (Bool.or_eq_false_iff.1 hc).2)
  refine ⟨fun hmem => ?_, hs.content, ?_⟩
  · rcases List.mem_append.1 hmem with hmem | hmem
    · rcases List.mem_append.1 hmem with hmem | hmem
      · exact absurd (hb _ hmem) (by decide)
      · exact hs.oneLine hmem
    · exact absurd (he _ hmem) (by decide)
  · rw [statement, htrim, trimEndChar, hsemicolon, List.reverse_reverse,
      trimEnd_of_stops hs.isTrimmed.2]

theorem HoldsStatement.isReadAs {line s : List Char} (h : HoldsStatement line s) :
    IsReadAs line s := by
  obtain ⟨hs, b, hb, rfl⟩ := h
  have hread := hs.isReadAs (e := []) hb (by simp)
  rwa [List.append_nil] at hread

theorem fencedBody?_eq_none {c : Char} {s : List Char} (hblank : isBlank c = false)
    (hfence : c ≠ '\x60') : fencedBody? (c :: s) = none := by
  have hafter : after? fence (trimStart (c :: s)) = none := by
    rw [trimStart_cons_of_not_blank hblank, after?_eq_none_iff]
    rintro ⟨t, ht⟩
    exact hfence (List.cons.inj ht).1.symm
  rw [fencedBody?, hafter]
  rfl

/-- A text of one statement a line, the first of them unindented, has these statements. -/
theorem statements_unlines {c : Char} {s : List Char} {ls ss : List (List Char)}
    (hfence : c ≠ '\x60') (hfirst : IsStatement (c :: s)) (h : List.Forall₂ IsReadAs ls ss) :
    statements (unlines ((c :: s) :: ls) ++ ['\n']) = (c :: s) :: ss := by
  have hblank : isBlank c = false := stops_cons_iff.1 hfirst.start
  have hunfence : ∀ t, unfence (c :: t) = c :: t := by
    intro t
    rw [unfence, fencedBody?_eq_none hblank hfence]
    rfl
  have hall : List.Forall₂ IsReadAs ((c :: s) :: ls) ((c :: s) :: ss) :=
    .cons (HoldsStatement.isReadAs ⟨hfirst, [], by simp, rfl⟩) h
  have hlast : unlines ((c :: s) :: ls) ++ ['\n'] = unlines (((c :: s) :: ls) ++ [[]]) := by
    rw [unlines, unlines, intercalate_append_singleton _ (List.cons_ne_nil _ _), List.append_nil]
  have hhead : ∃ t, unlines (((c :: s) :: ls) ++ [[]]) = c :: t := by
    cases ls <;> exact ⟨_, rfl⟩
  obtain ⟨t, ht⟩ := hhead
  have hsplit : List.Forall₂
      (fun l s => ('\n' ∉ l ∧ isContent (statement l) = true) ∧ statement l = s)
      ((c :: s) :: ls) ((c :: s) :: ss) := by
    refine hall.imp fun l s hl => ⟨⟨hl.oneLine, ?_⟩, hl.statement_eq⟩
    rw [hl.statement_eq]
    exact hl.content
  obtain ⟨hgood, hstatements⟩ := (List.forall₂_and_left _ _).1 hsplit
  rw [← List.forall₂_map_left_iff (R := Eq), List.forall₂_eq_eq_eq] at hstatements
  have hlines : ∀ l ∈ ((c :: s) :: ls) ++ [[]], '\n' ∉ l := by
    intro l hl
    rcases List.mem_append.1 hl with hl | hl
    · exact (hgood l hl).1
    · rw [List.mem_singleton.1 hl]
      exact List.not_mem_nil
  have hcontent : ∀ s' ∈ ((c :: s) :: ls).map statement, isContent s' = true := by
    intro s' hs'
    obtain ⟨l, hl, rfl⟩ := List.mem_map.1 hs'
    exact (hgood l hl).2
  have hempty : ([[]].map statement).filter isContent = [] := by decide
  rw [statements, hlast, ht, hunfence, ← ht, lines_unlines hlines (by simp), List.map_append,
    List.filter_append, hempty, List.append_nil, List.filter_eq_self.2 hcontent, hstatements]

/-! ## Texts with a known first statement -/

theorem exists_dropEnd_cons {p : Char → Bool} {c : Char} (h : p c = false) (s : List Char) :
    ∃ t, ((c :: s).reverse.dropWhile p).reverse = c :: t := by
  rw [List.reverse_cons, List.dropWhile_append]
  split
  · exact ⟨[], by simp [h]⟩
  · exact ⟨(s.reverse.dropWhile p).reverse, by simp⟩

/-- What a line says begins like the line, unless that is a semicolon. -/
theorem exists_statement_cons {line s : List Char} {c : Char} (h : trimStart line = c :: s)
    (hc : c ≠ ';') : ∃ t, statement line = c :: t := by
  have hblank : isBlank c = false := by
    have hstart : Stops isBlank (c :: s) := h ▸ stops_dropWhile isBlank line
    exact stops_cons_iff.1 hstart
  obtain ⟨t, ht⟩ := exists_dropEnd_cons hblank s
  obtain ⟨u, hu⟩ := exists_dropEnd_cons (p := (· == ';')) (beq_eq_false_iff_ne.2 hc) t
  have htrim : trim line = c :: t := by rw [trim, h, trimEnd, ht]
  rw [statement, htrim, trimEndChar, hu]
  exact exists_dropEnd_cons hblank u

theorem statement_of_blank {line : List Char} (h : trimStart line = []) : statement line = [] := by
  rw [statement, trim, h]
  rfl

theorem exists_unlines_cons (l : List Char) (ls : List (List Char)) :
    ∃ e, (∀ c ∈ e, isBlank c = true) ∧ unlines (l :: ls) = l ++ (e ++ unlines ls) := by
  cases ls with
  | nil => exact ⟨[], by simp, by simp [unlines]⟩
  | cons l' ls => exact ⟨['\n'], by decide, by simp [unlines]⟩

/-- The first character of a text stands on a line, and the lines above it are blank. -/
theorem exists_line_of_trimStart {ls : List (List Char)} {c : Char} {s : List Char}
    (h : trimStart (unlines ls) = c :: s) :
    ∃ front line back t, ls = front ++ line :: back ∧ (∀ l ∈ front, trimStart l = []) ∧
      trimStart line = c :: t := by
  induction ls with
  | nil => exact absurd h (List.cons_ne_nil c s).symm
  | cons l ls ih =>
      obtain ⟨e, he, hsplit⟩ := exists_unlines_cons l ls
      rw [hsplit, trimStart, List.dropWhile_append] at h
      cases hl : l.dropWhile isBlank with
      | nil =>
          rw [hl, if_pos List.isEmpty_nil] at h
          obtain ⟨front, line, back, t, rfl, hfront, ht⟩ := ih ((trimStart_append he).symm.trans h)
          exact ⟨l :: front, line, back, t, rfl, List.forall_mem_cons.2 ⟨hl, hfront⟩, ht⟩
      | cons d t =>
          rw [hl, if_neg (by simp)] at h
          obtain ⟨rfl, -⟩ := List.cons.inj h
          exact ⟨[], l, ls, t, rfl, by simp, hl⟩

/-- The statements on some lines. -/
def statementsOf (ls : List (List Char)) : List (List Char) :=
  (ls.map statement).filter isContent

theorem statementsOf_append (ls ls' : List (List Char)) :
    statementsOf (ls ++ ls') = statementsOf ls ++ statementsOf ls' := by
  rw [statementsOf, List.map_append, List.filter_append, statementsOf, statementsOf]

theorem statementsOf_cons (l : List Char) (ls : List (List Char)) :
    statementsOf (l :: ls) = statementsOf [l] ++ statementsOf ls :=
  statementsOf_append [l] ls

theorem statementsOf_singleton_of_trim_eq {l l' : List Char} (h : trim l = trim l') :
    statementsOf [l] = statementsOf [l'] := by
  rw [statementsOf, statementsOf, List.map_singleton, List.map_singleton, statement, h, statement]

/-- White space in front of a text may add blank lines, but no statement. -/
theorem statementsOf_lines_cons {c : Char} (hc : isBlank c = true) (s : List Char) :
    statementsOf (lines (c :: s)) = statementsOf (lines s) := by
  by_cases hfeed : c = '\n'
  · subst hfeed
    have hlines : lines ('\n' :: s) = [] :: lines s := lines_append_lineFeed List.not_mem_nil s
    rw [hlines, statementsOf_cons]
    rfl
  · obtain ⟨l, ls, h⟩ := List.exists_cons_of_ne_nil (List.splitOn_ne_nil '\n' s)
    have htrim : trim (c :: l) = trim l := by rw [trim, trimStart_cons_of_blank hc, trim]
    have hlines : lines s = l :: ls := h
    rw [lines_cons hfeed hlines, hlines, statementsOf_cons, statementsOf_cons l,
      statementsOf_singleton_of_trim_eq htrim]

theorem statementsOf_lines_append_singleton {c : Char} (hc : isBlank c = true) (s : List Char) :
    statementsOf (lines (s ++ [c])) = statementsOf (lines s) := by
  by_cases hfeed : c = '\n'
  · subst hfeed
    rw [lines_append_lineFeed_end, statementsOf_append]
    exact List.append_nil _
  · obtain ⟨front, last, h⟩ := exists_lines_eq_append s
    have htrim : trim (last ++ [c]) = trim last :=
      trim_of_blank_around (b := []) (by simp) (by simpa using hc) last
    rw [lines_append_singleton hfeed h, h, statementsOf_append, statementsOf_append,
      statementsOf_singleton_of_trim_eq htrim]

/-- White space around a text adds no statement. -/
theorem statementsOf_lines_of_blank_around {b e : List Char} (hb : ∀ c ∈ b, isBlank c = true)
    (he : ∀ c ∈ e, isBlank c = true) (s : List Char) :
    statementsOf (lines (b ++ (s ++ e))) = statementsOf (lines s) := by
  induction b with
  | nil =>
      rw [List.nil_append]
      induction e generalizing s with
      | nil => rw [List.append_nil]
      | cons c e ih =>
          rw [List.forall_mem_cons] at he
          rw [List.append_cons, ih he.2, statementsOf_lines_append_singleton he.1]
  | cons c b ih =>
      rw [List.forall_mem_cons] at hb
      rw [List.cons_append, statementsOf_lines_cons hb.1, ih hb.2]

/-- Texts that differ in the white space around them only have the same statements. -/
theorem statementsOf_lines_of_trim_eq {s t : List Char} (h : trim s = trim t) :
    statementsOf (lines s) = statementsOf (lines t) := by
  obtain ⟨b, e, hb, he, hs⟩ := exists_eq_append_trim s
  obtain ⟨b', e', hb', he', ht⟩ := exists_eq_append_trim t
  calc statementsOf (lines s)
      = statementsOf (lines (trim s)) := by
        rw [hs, statementsOf_lines_of_blank_around hb he, ← hs]
    _ = statementsOf (lines t) := by
        rw [h, ht, statementsOf_lines_of_blank_around hb' he', ← ht]

/-- A text that is no fenced block is read as it stands. -/
theorem statements_of_fencedBody?_eq_none {s : List Char} (h : fencedBody? s = none) :
    statements s = statementsOf (lines s) := by
  rw [statements, unfence, h]
  rfl

theorem statementsOf_of_isStatement {ls : List (List Char)} (h : ∀ s ∈ ls, IsStatement s) :
    statementsOf ls = ls := by
  have hread : ∀ s ∈ ls, IsReadAs s s := fun s hs =>
    HoldsStatement.isReadAs ⟨h s hs, [], by simp, rfl⟩
  rw [statementsOf, List.map_congr_left fun s hs => (hread s hs).statement_eq, List.map_id',
    List.filter_eq_self]
  exact fun s hs => (hread s hs).content

/-- A text whose first statement begins no fence is read as it stands. -/
theorem statements_of_statementsOf {s first : List Char} {rest : List (List Char)}
    (h : statementsOf (lines s) = first :: rest) (hfence : first.head? ≠ some '\x60') :
    statements s = first :: rest := by
  have hnone : after? fence (trimStart s) = none := by
    rw [after?_eq_none_iff]
    rintro ⟨t, ht⟩
    have hstart : trimStart (unlines (lines s)) = '\x60' :: ('\x60' :: '\x60' :: t) := by
      rw [unlines_lines, ← ht]
      rfl
    obtain ⟨front, line, back, u, hlines, hfront, hu⟩ := exists_line_of_trimStart hstart
    obtain ⟨v, hv⟩ := exists_statement_cons hu (by decide)
    have hblank : statementsOf front = [] := by
      rw [statementsOf, List.filter_eq_nil_iff]
      intro l hl
      obtain ⟨l', hl', rfl⟩ := List.mem_map.1 hl
      rw [statement_of_blank (hfront l' hl')]
      decide
    have hcontent : isContent ('\x60' :: v) = true := rfl
    rw [hlines, statementsOf_append, hblank, List.nil_append, statementsOf, List.map_cons,
      List.filter_cons, hv, if_pos hcontent] at h
    rw [← (List.cons.inj h).1] at hfence
    exact hfence rfl
  have hunfenced : fencedBody? s = none := by
    rw [fencedBody?, hnone]
    rfl
  rw [statements_of_fencedBody?_eq_none hunfenced, h]

/-! ## The end of a line -/

theorem dropEnd_append {p : Char → Bool} {s : List Char} (hs : Stops p s.reverse) (t : List Char) :
    ((s ++ t).reverse.dropWhile p).reverse = s ++ (t.reverse.dropWhile p).reverse := by
  rw [List.reverse_append, List.dropWhile_append]
  split
  · next h =>
    rw [List.isEmpty_iff.1 h, List.reverse_nil, List.append_nil, dropWhile_of_stops hs,
      List.reverse_reverse]
  · rw [List.reverse_append, List.reverse_reverse]

theorem trimEnd_append_of_stops {s : List Char} (hs : Stops isBlank s.reverse) (t : List Char) :
    trimEnd (s ++ t) = s ++ trimEnd t :=
  dropEnd_append hs t

theorem trimEndChar_append_of_stops {c : Char} {s : List Char} (hs : Stops (· == c) s.reverse)
    (t : List Char) : trimEndChar c (s ++ t) = s ++ trimEndChar c t :=
  dropEnd_append hs t

/-- The end of a line as the statement of the line has it. -/
def statementEnd (s : List Char) : List Char :=
  trimEnd (trimEndChar ';' (trimEnd s))

theorem statement_eq (line : List Char) : statement line = statementEnd (trimStart line) := by
  rfl

/-- What ends a line is taken from its end alone: the line stays up to a character that is neither
white space nor a semicolon. -/
theorem statementEnd_append {front : List Char} (hfront : Stops isLineEnd front.reverse)
    (s : List Char) : statementEnd (front ++ s) = front ++ statementEnd s := by
  have hblank : Stops isBlank front.reverse :=
    hfront.mono fun _ hc => (Bool.or_eq_false_iff.1 hc).1
  have hsemicolon : Stops (· == ';') front.reverse :=
    hfront.mono fun _ hc => (Bool.or_eq_false_iff.1 hc).2
  rw [statementEnd, trimEnd_append_of_stops hblank, trimEndChar_append_of_stops hsemicolon,
    trimEnd_append_of_stops hblank, statementEnd]

/-- White space in front of a text does not count. -/
theorem trim_statementEnd (s : List Char) : trim (statementEnd s) = statement s := by
  obtain ⟨b, hb, hs⟩ := exists_eq_append_trimStart s
  have hstart : Stops isBlank (trimStart s) := stops_dropWhile isBlank s
  have hsemicolon : Stops (· == ';') b.reverse := by
    refine stops_of_forall fun c hc => beq_false_of_ne ?_
    rintro rfl
    exact absurd (hb _ (List.mem_reverse.1 hc)) (by decide)
  rw [statementEnd, trim_trimEnd, statement_eq]
  cases hfirst : trimStart s with
  | nil =>
      rw [hfirst, List.append_nil] at hs
      have hblank : trimEnd s = [] := by
        rw [hs]
        exact trimEnd_append (s := []) hb
      rw [hblank]
      rfl
  | cons c t =>
      rw [hfirst] at hs hstart
      have hc : Stops isBlank [c].reverse := stops_cons_iff.2 (stops_cons_iff.1 hstart)
      have hend : trimEnd s = b ++ trimEnd (c :: t) := by
        have hback : trimEnd (b ++ [c] ++ t) = b ++ [c] ++ trimEnd t :=
          trimEnd_append_of_stops (stops_reverse_append hc (by simp) b) t
        have hfront : trimEnd ([c] ++ t) = [c] ++ trimEnd t := trimEnd_append_of_stops hc t
        rw [List.singleton_append] at hfront
        rw [hs, hfront, List.append_cons, hback, List.append_assoc]
      have hprefix : trimEndChar ';' (trimEnd (c :: t)) <+: c :: t := by
        have h := List.reverse_prefix.2 (List.dropWhile_suffix (· == ';')
          (l := (trimEnd (c :: t)).reverse))
        rw [List.reverse_reverse] at h
        exact h.trans (isPrefix_trimEnd _)
      have hall := trim_of_blank_around hb (e := []) (by simp) (trimEndChar ';' (trimEnd (c :: t)))
      rw [List.append_nil] at hall
      rw [hend, trimEndChar_append_of_stops hsemicolon, hall, trim,
        trimStart_of_stops (hstart.of_isPrefix hprefix), statementEnd]

/-- Nothing but white space is taken from a text that ends in no semicolon. -/
theorem statement_of_stops {s : List Char} (hs : Stops isLineEnd s.reverse) :
    statement s = trim s := by
  have hend : Stops isLineEnd (trimStart s).reverse :=
    hs.of_isPrefix (List.reverse_prefix.2 (List.dropWhile_suffix isBlank))
  have hkept := statementEnd_append hend []
  rw [List.append_nil] at hkept
  rw [statement_eq, hkept, trim,
    trimEnd_of_stops (hend.mono fun _ hc => (Bool.or_eq_false_iff.1 hc).1)]
  exact List.append_nil _

/-- A text of a header and one line that begins with a word and ends with a label has two statements,
and the end of the second is the end of the label. -/
theorem statements_labelledLine {header front label : List Char} {c : Char}
    (hheader : IsStatement header) (hfence : header.head? ≠ some '\x60') (hc : isWord c = true)
    (hfront : '\n' ∉ front) (hlabel : '\n' ∉ label) :
    statements (header ++ '\n' :: (c :: front ++ ':' :: label)) =
      [header, c :: front ++ ':' :: statementEnd label] := by
  have hline : '\n' ∉ c :: front ++ ':' :: label := by
    have hfeed : '\n' ≠ c := (ne_of_isWord hc (by decide)).symm
    simp [hfeed, hfront, hlabel]
  have hstatement : statement (c :: front ++ ':' :: label) =
      c :: front ++ ':' :: statementEnd label := by
    have hcolon : Stops isLineEnd (c :: front ++ [':']).reverse :=
      stops_reverse_append (stops_cons_iff.2 (by decide)) (List.cons_ne_nil _ _) _
    have hend := statementEnd_append hcolon label
    rw [List.append_assoc, List.append_assoc, List.singleton_append, List.singleton_append] at hend
    rw [statement_eq, List.cons_append, trimStart_cons_of_not_blank (isBlank_of_isWord hc)]
    exact hend
  have hsecond : statementsOf [c :: front ++ ':' :: label] =
      [c :: front ++ ':' :: statementEnd label] := by
    rw [statementsOf, List.map_singleton, hstatement, List.filter_singleton, List.cons_append,
      isContent_cons (ne_of_isWord hc (by decide))]
    rfl
  refine statements_of_statementsOf ?_ hfence
  rw [lines_append_lineFeed hheader.oneLine, lines_of_not_mem hline, statementsOf_cons,
    statementsOf_of_isStatement (by simpa using hheader), hsecond]
  rfl

end DiagramBridge.Mermaid
