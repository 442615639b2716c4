import DiagramBridge.Mermaid.ClassDiagram.Reader
import DiagramBridge.Proofs.Drawio.Style
import DiagramBridge.Proofs.Text.Blank

/-!
# Reading relations

A relation has its symbol between spaces, and a cardinality between quotes may stand on either side
of it. No symbol begins inside a word, because every symbol has a character among its first two that
neither stands in words nor is a space; so the name on the left is read up to the space. What stands
between quotes is skipped unread. The symbols that are tried before the one that is there do not
begin like it, so whatever the symbol is, it is found.

A class may have the keyword for its name: behind the keyword no declaration goes on with a quote or
a symbol.
-/

namespace DiagramBridge.Mermaid.ClassDiagram

open Text

/-- The symbol that a relation is written with, with its meaning. -/
def writtenSymbol (relation : Relation) : Symbol :=
  ⟨relationToken relation, relation, false, relation.lineStyle⟩

/-! ## Where no symbol begins -/

theorem symbol?_eq_none {s : List Char} (h : ∀ symbol ∈ symbols, ¬ symbol.text.toList <+: s) :
    symbol? s = none := by
  rw [symbol?, List.findSome?_eq_none_iff]
  intro symbol hsymbol
  rw [after?_eq_none_iff.2 (h symbol hsymbol)]
  rfl

/-- No symbol begins inside a word with a space behind it. -/
theorem symbol?_word {c : Char} {w rest : List Char} (hw : ∀ d ∈ c :: w, isWord d = true) :
    symbol? (c :: (w ++ ' ' :: rest)) = none := by
  have hmarks : ∀ symbol ∈ symbols, ∃ a b t, symbol.text.toList = a :: b :: t ∧
      (isWord a = false ∨ isWord b = false ∧ b ≠ ' ') := by
    intro symbol hsymbol
    simp only [symbols, List.mem_cons, List.not_mem_nil, or_false] at hsymbol
    rcases hsymbol with rfl | rfl | rfl | rfl | rfl | rfl | rfl | rfl | rfl | rfl | rfl | rfl |
      rfl | rfl <;> exact ⟨_, _, _, rfl, by decide⟩
  refine symbol?_eq_none fun symbol hsymbol hpre => ?_
  obtain ⟨a, b, t, htext, hmark⟩ := hmarks symbol hsymbol
  rw [htext, List.cons_prefix_cons] at hpre
  obtain ⟨rfl, hpre⟩ := hpre
  rcases hmark with ha | ⟨hb, hspace⟩
  · exact ne_of_isWord (hw a (by simp)) ha rfl
  · cases w with
    | nil =>
        rw [List.nil_append, List.cons_prefix_cons] at hpre
        exact hspace hpre.1
    | cons d w =>
        rw [List.cons_append, List.cons_prefix_cons] at hpre
        exact ne_of_isWord (hw d (by simp)) hb hpre.1.symm

/-! ## The right side -/

/-- No cardinality stands where there is no quote. -/
theorem dropCardinality?_cons {c : Char} (hc : c ≠ '"') (s : List Char) :
    dropCardinality? (c :: s) = some (c :: s) := by
  rw [dropCardinality?.eq_def]
  split
  · next heq => exact absurd (List.cons.inj heq).1 hc
  · rfl

/-- A cardinality between quotes with a space behind it, if there is one. -/
def quotedPart : Option (List Char) → List Char
  | none => []
  | some count => '"' :: (count ++ ['"', ' '])

/-- A cardinality without quotes in it is skipped. -/
theorem dropCardinality?_quotedPart {count : Option (List Char)} (hcount : ∀ s ∈ count, '"' ∉ s)
    {rest : List Char} (hblank : Stops isBlank rest) (hquote : Stops (· == '"') rest) :
    dropCardinality? (trimStart (quotedPart count ++ rest)) = some rest := by
  cases count with
  | none =>
      rw [quotedPart, List.nil_append, trimStart_of_stops hblank]
      cases rest with
      | nil => rfl
      | cons c rest => exact dropCardinality?_cons (beq_eq_false_iff_ne.1 (hquote c rfl)) _
  | some s =>
      have hclosing : isBlank '"' = false := by decide
      have hcut : cutAt? '"' (s ++ '"' :: ' ' :: rest) = some (s, ' ' :: rest) :=
        cutAt?_append (hcount s rfl) _
      rw [quotedPart, List.cons_append, trimStart_cons_of_not_blank hclosing, List.append_assoc]
      simp only [dropCardinality?, List.cons_append, List.nil_append, hcut, Option.map_some]
      rw [trimStart_cons_of_blank (by decide), trimStart_of_stops hblank]

/-- What stands behind the class on the right: the label, if there is one. -/
def labelMark (label : List Char) : List Char :=
  if label.isEmpty then [] else " : ".toList ++ label

/-- A mark is read as a label: nothing is no label, and behind a colon stands one. -/
def IsReadAsLabel (mark label : List Char) : Prop :=
  mark = [] ∧ label = [] ∨ ∃ s, mark = ' ' :: ':' :: s ∧ trim s = label

theorem isReadAsLabel_labelMark {label : List Char} (h : IsTrimmed label) :
    IsReadAsLabel (labelMark label) label := by
  rw [labelMark]
  split
  · next hempty => exact Or.inl ⟨rfl, List.isEmpty_iff.1 hempty⟩
  · refine Or.inr ⟨' ' :: label, rfl, ?_⟩
    have htrim := trim_append_append (b := [' ']) (e := []) (by decide) (by simp) h
    rwa [List.append_nil] at htrim

theorem rightSide?_counted {count : Option (List Char)} (hcount : ∀ s ∈ count, '"' ∉ s)
    {target mark label : List Char} (hne : target ≠ []) (htarget : ∀ c ∈ target, isWord c = true)
    (hmark : IsReadAsLabel mark label) :
    rightSide? (' ' :: (quotedPart count ++ (target ++ mark))) = some (target, label) := by
  have hblank : Stops isBlank (target ++ mark) :=
    (stops_of_forall fun c hc => isBlank_of_isWord (htarget c hc)).append hne
  have hquote : Stops (· == '"') (target ++ mark) :=
    (stops_of_forall fun c hc =>
      beq_false_of_ne (ne_of_isWord (htarget c hc) (by decide))).append hne
  have hright : ∀ c ∈ target, (!isBlank c && c != '"' && c != ':') = true := by
    intro c hc
    have h1 : c ≠ '"' := ne_of_isWord (htarget c hc) (by decide)
    have h2 : c ≠ ':' := ne_of_isWord (htarget c hc) (by decide)
    simp [isBlank_of_isWord (htarget c hc), h1, h2]
  have hstops : Stops (fun c => !isBlank c && c != '"' && c != ':') mark := by
    rcases hmark with ⟨rfl, -⟩ | ⟨s, rfl, -⟩
    · exact stops_nil _
    · exact stops_cons_iff.2 (by decide)
  rw [rightSide?, trimStart_cons_of_blank (by decide), dropCardinality?_quotedPart hcount hblank
    hquote]
  simp only [Option.bind_eq_bind, Option.bind_some, span_append_of_stops hright hstops]
  rw [if_neg (by simpa using hne)]
  rcases hmark with ⟨rfl, rfl⟩ | ⟨s, rfl, rfl⟩
  · rfl
  · rfl

/-! ## Symbols between spaces -/

/-- No symbol begins with one that is tried before it. -/
theorem pairwise_symbols :
    symbols.Pairwise fun a b => ¬ a.text.toList <+: b.text.toList := by
  decide

theorem stops_text {a : Symbol} (ha : a ∈ symbols) (rest : List Char) :
    Stops isBlank (a.text.toList ++ rest) ∧ Stops (· == '"') (a.text.toList ++ rest) := by
  have hall : ∀ b ∈ symbols, b.text.toList ≠ [] ∧ Stops isBlank b.text.toList ∧
      Stops (· == '"') b.text.toList := by
    decide
  obtain ⟨hne, hblank, hquote⟩ := hall a ha
  exact ⟨hblank.append hne, hquote.append hne⟩

theorem symbol?_of_mem {a : Symbol} (ha : a ∈ symbols) {rest : List Char}
    {side : List Char × List Char} (hside : rightSide? (' ' :: rest) = some side) :
    symbol? (a.text.toList ++ ' ' :: rest) = some (a, side) := by
  have hvisible : ∀ b ∈ symbols, ∀ c ∈ b.text.toList, (c != ' ') = true := by decide
  obtain ⟨before, later, hsymbols⟩ := List.append_of_mem ha
  have hpairwise := pairwise_symbols
  rw [hsymbols, List.pairwise_append] at hpairwise
  have hnone : ∀ b ∈ before, after? b.text (a.text.toList ++ ' ' :: rest) = none := by
    intro b hb
    have hmem : b ∈ symbols := by simp [hsymbols, hb]
    rw [after?_eq_none_iff]
    exact fun h => hpairwise.2.2 b hb a (by simp)
      (isPrefix_of_append (hvisible b hmem) (stops_cons_iff.2 (by decide)) h)
  rw [symbol?, hsymbols, List.findSome?_append, List.findSome?_eq_none_iff.2, Option.none_or,
    List.findSome?_cons, after?_append, Option.bind_some, hside]
  · rfl
  · intro b hb
    rw [hnone b hb]
    rfl

/-- The name on the left is read up to the space behind it. -/
theorem symbolAfterName?_word {source rest : List Char} {found : Symbol × List Char × List Char}
    (hne : source ≠ []) (hsource : ∀ c ∈ source, isWord c = true)
    (hfound : (dropCardinality? (trimStart rest)).bind symbol? = some found) :
    symbolAfterName? (source ++ ' ' :: rest) = some (source, found) := by
  have hblankOf : ∀ c ∈ source, isBlank c = false := fun c hc => isBlank_of_isWord (hsource c hc)
  have hquoteOf : ∀ c ∈ source, c ≠ '"' := fun c hc => ne_of_isWord (hsource c hc) (by decide)
  induction source with
  | nil => exact absurd rfl hne
  | cons c source ih =>
      have hstart : ¬ (isBlank c = true ∨ c = '"') := by
        rw [hblankOf c (by simp)]
        simpa using hquoteOf c (by simp)
      rw [List.cons_append, symbolAfterName?, if_neg (by simpa using hstart)]
      cases source with
      | nil => rw [List.nil_append, trimStart_cons_of_blank (by decide), hfound]
      | cons d source =>
          have hd : isBlank d = false := hblankOf d (by simp)
          have hnone : symbol? (d :: (source ++ ' ' :: rest)) = none :=
            symbol?_word fun e he => hsource e (List.mem_cons_of_mem c he)
          rw [List.cons_append, trimStart_cons_of_not_blank hd,
            dropCardinality?_cons (hquoteOf d (by simp)), Option.bind_some, hnone]
          -- Nothing is found behind one character, so the name goes on with the next.
          simp only
          rw [← List.cons_append, ih (by simp) (fun e he => hsource e (List.mem_cons_of_mem c he))
            (fun e he => hblankOf e (List.mem_cons_of_mem c he))
            (fun e he => hquoteOf e (List.mem_cons_of_mem c he))]
          rfl

/-! ## Whole relations -/

/-- A line that begins with another word than the keyword declares nothing. -/
theorem declaration?_eq_none {w rest : List Char} (hw : ∀ c ∈ w, isWord c = true)
    (hkeyword : w ≠ "class".toList) (hrest : Stops isWord rest) :
    declaration? (w ++ rest) = none := by
  rw [declaration?]
  cases hafter : after? "class" (w ++ rest) with
  | none => rfl
  | some s =>
      have hpre : "class".toList <+: w :=
        isPrefix_of_append (p := isWord) (by decide) hrest
          ⟨s, after?_eq_some_iff.1 hafter⟩
      obtain ⟨t, rfl⟩ := hpre
      have hs : s = t ++ rest := by
        have h := after?_eq_some_iff.1 hafter
        rw [List.append_assoc] at h
        exact List.append_cancel_left h
      cases t with
      | nil => exact absurd (List.append_nil _) hkeyword
      | cons c t =>
          have hc : isBlank c = false := isBlank_of_isWord (hw c (by simp))
          simp only [Option.bind_eq_bind, Option.bind_some, hs, List.cons_append, hc]
          rfl

/-- Behind the keyword no declaration goes on with a sign that opens nothing. -/
theorem declaration?_keyword_eq_none {w rest : List Char} {c : Char}
    (hw : ∀ d ∈ w, isWord d = true) (hword : isWord c = false) (hblank : isBlank c = false)
    (hc : c ∉ ['~', '[', '\x7b', '\x7d']) :
    declaration? ("class".toList ++ ' ' :: (w ++ c :: rest)) = none := by
  simp only [List.mem_cons, List.not_mem_nil, or_false, not_or] at hc
  obtain ⟨htilde, hbracket, hopening, hclosing⟩ := hc
  have hstart : Stops isBlank (w ++ c :: rest) := by
    cases w with
    | nil => exact stops_cons_iff.2 hblank
    | cons d w => exact stops_cons_iff.2 (isBlank_of_isWord (hw d (by simp)))
  have hspan : spanWord (trimStart (w ++ c :: rest)) = (w, c :: rest) := by
    rw [trimStart_of_stops hstart]
    exact span_append_of_stops hw (stops_cons_iff.2 hword)
  have hparameters : dropTypeParameters? (c :: rest) = some (c :: rest) := by
    rw [dropTypeParameters?.eq_def]
    split
    · next heq => exact absurd (List.cons.inj heq).1 htilde
    · rfl
  have hbody : bodyMark? (c :: rest) = none := by
    rw [bodyMark?, trimStart_cons_of_not_blank hblank]
    simp [hopening, hclosing]
  rw [declaration?, after?_append]
  simp only [Option.bind_eq_bind, Option.bind_some, hspan]
  rw [if_neg (by decide)]
  split_ifs with hempty
  · rfl
  · rw [hparameters, Option.bind_some, trimStart_cons_of_not_blank hblank]
    split
    · next heq => exact absurd (List.cons.inj heq).1 hbracket
    · rw [hbody]
      rfl

/-- What stands behind the name on the left: signs that no declaration has there. -/
theorem declaration?_counted {a : Symbol} (ha : a ∈ symbols) (count : Option (List Char))
    {source : List Char} (hsource : ∀ c ∈ source, isWord c = true) (rest : List Char) :
    declaration? (source ++ ' ' :: (quotedPart count ++ (a.text.toList ++ rest))) = none := by
  by_cases hkeyword : source = "class".toList
  · rw [hkeyword]
    cases count with
    | none =>
        have hsigns : ∀ b ∈ symbols, ∃ c ∈ (b.text.toList.dropWhile isWord).head?,
            isBlank c = false ∧ c ∉ ['~', '[', '\x7b', '\x7d'] := by
          decide
        obtain ⟨c, hhead, hblank, hc⟩ := hsigns a ha
        obtain ⟨t, ht⟩ := List.head?_eq_some_iff.1 hhead
        have hword : isWord c = false := stops_dropWhile isWord a.text.toList c hhead
        have htext : a.text.toList = a.text.toList.takeWhile isWord ++ c :: t := by
          rw [← ht, List.takeWhile_append_dropWhile]
        rw [quotedPart, List.nil_append, htext, List.append_assoc, List.cons_append]
        exact declaration?_keyword_eq_none
          (fun d hd => List.all_eq_true.1 List.all_takeWhile d hd) hword hblank hc
    | some s =>
        exact declaration?_keyword_eq_none (w := []) (by simp) (by decide) (by decide) (by decide)
  · exact declaration?_eq_none hsource hkeyword (stops_cons_iff.2 (by decide))

/-- A relation is read with its classes, its symbol and its label, whatever cardinalities it has. -/
theorem ofLine?_counted {a : Symbol} (ha : a ∈ symbols) {count count' : Option (List Char)}
    (hcount : ∀ s ∈ count, '"' ∉ s) (hcount' : ∀ s ∈ count', '"' ∉ s)
    {source target mark label : List Char} (hsne : source ≠ [])
    (hsource : ∀ c ∈ source, isWord c = true) (htne : target ≠ [])
    (htarget : ∀ c ∈ target, isWord c = true) (hmark : IsReadAsLabel mark label) :
    Statement.ofLine? (source ++ ' ' :: (quotedPart count ++ (a.text.toList ++
        ' ' :: (quotedPart count' ++ (target ++ mark))))) =
      some (.relation source target label a) := by
  have hside := rightSide?_counted hcount' htne htarget hmark
  obtain ⟨hblank, hquote⟩ := stops_text ha (' ' :: (quotedPart count' ++ (target ++ mark)))
  have hfound : (dropCardinality? (trimStart (quotedPart count ++ (a.text.toList ++
      ' ' :: (quotedPart count' ++ (target ++ mark)))))).bind symbol? =
        some (a, target, label) := by
    rw [dropCardinality?_quotedPart hcount hblank hquote, Option.bind_some, symbol?_of_mem ha hside]
  rw [Statement.ofLine?, declaration?_counted ha count hsource, relation?,
    symbolAfterName?_word hsne hsource hfound]
  rfl

/-- A written relation has no cardinalities. -/
theorem ofLine?_relation (relation : Relation) {source target mark label : List Char}
    (hsne : source ≠ []) (hsource : ∀ c ∈ source, isWord c = true) (htne : target ≠ [])
    (htarget : ∀ c ∈ target, isWord c = true) (hmark : IsReadAsLabel mark label) :
    Statement.ofLine? (source ++ ' ' :: ((relationToken relation).toList ++
        ' ' :: (target ++ mark))) =
      some (.relation source target label (writtenSymbol relation)) := by
  have hmem : writtenSymbol relation ∈ symbols := by
    cases relation <;> decide
  have hnone : ∀ s ∈ (none : Option (List Char)), '"' ∉ s := by simp
  exact ofLine?_counted hmem hnone hnone hsne hsource htne htarget hmark

end DiagramBridge.Mermaid.ClassDiagram
