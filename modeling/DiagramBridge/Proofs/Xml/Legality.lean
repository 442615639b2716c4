import DiagramBridge.Proofs.Number.Digits
import DiagramBridge.Proofs.Text.Search
import DiagramBridge.Proofs.Xml.RoundTrip
import DiagramBridge.Xml.Name

/-!
# Which written elements are documents

Writing escapes the characters of markup and passes every other character on, also those that no
document may have. Of an element whose names and character data are in order only the values of the
attributes decide, then: with a value that is not legal the text is no document, and otherwise it is
read back. Of the characters, most controls and two code points are illegal; word characters and
numbers are not among those.
-/

namespace DiagramBridge.Xml

open Text

/-! ## Legal texts -/

/-- A text with no character that markup excludes. -/
def IsLegal (s : String) : Prop :=
  ∀ c ∈ s.toList, isXmlChar c = true

instance (s : String) : Decidable (IsLegal s) :=
  inferInstanceAs (Decidable (∀ c ∈ s.toList, _))

theorem isXmlChar_of_bounds {c : Char} (hlow : 32 ≤ c.toNat) (hFFFE : c.toNat ≠ 0xFFFE)
    (hFFFF : c.toNat ≠ 0xFFFF) : isXmlChar c = true := by
  simp [isXmlChar, hlow, hFFFE, hFFFF]

theorem isXmlChar_of_isWord {c : Char} (h : isWord c = true) : isXmlChar c = true := by
  have hranges : ∀ n ∈ [0xFFFE, 0xFFFF], inRanges letterRanges n = false := by decide +kernel
  rw [isWord] at h
  split at h
  · next hascii =>
    simp only [isAsciiLetter, isAsciiDigit, Bool.or_eq_true, Bool.and_eq_true, decide_eq_true_eq,
      beq_iff_eq, Char.le_def, UInt32.le_iff_toNat_le] at h
    have hlow : 32 ≤ c.toNat := by
      rcases h with ((h | h) | h) | rfl
      · exact Nat.le_trans (by decide) h.1
      · exact Nat.le_trans (by decide) h.1
      · exact Nat.le_trans (by decide) h.1
      · decide
    exact isXmlChar_of_bounds hlow (by omega) (by omega)
  · have hne : ∀ n ∈ [0xFFFE, 0xFFFF], c.toNat ≠ n := by
      intro n hn heq
      rw [heq, hranges n hn] at h
      exact absurd h (by simp)
    exact isXmlChar_of_bounds (by omega) (hne _ (by simp)) (hne _ (by simp))

theorem isXmlChar_of_isNumberChar {c : Char} (h : isNumberChar c = true) : isXmlChar c = true := by
  rw [isNumberChar, Bool.or_eq_true, List.contains_iff_mem] at h
  have hall : ∀ c ∈ "+-.aefin".toList, isXmlChar c = true := by decide
  exact h.elim (fun hdigit => isXmlChar_of_isWord (isWord_of_isAsciiDigit hdigit)) (hall c)

theorem isLegal_of_isWord {s : String} (h : ∀ c ∈ s.toList, isWord c = true) : IsLegal s :=
  fun c hc => isXmlChar_of_isWord (h c hc)

theorem IsLegal.append {s t : String} (hs : IsLegal s) (ht : IsLegal t) : IsLegal (s ++ t) := by
  intro c hc
  rw [String.toList_append, List.mem_append] at hc
  exact hc.elim (hs c) (ht c)

theorem isLegal_decimalString (n : Nat) : IsLegal (decimalString n) := by
  intro c hc
  rw [toList_decimalString] at hc
  exact isXmlChar_of_isWord (isWord_of_mem_decimal hc)

theorem isLegal_coordText (x : Coord) : IsLegal (String.ofList x.text) := by
  intro c hc
  rw [String.toList_ofList] at hc
  exact isXmlChar_of_isNumberChar (Coord.isNumberChar_of_mem_text hc)

/-! ## Illegal texts -/

theorem all_isXmlChar_normalizeBreaks (s : List Char) :
    (normalizeBreaks s).all isXmlChar = s.all isXmlChar := by
  have hreturn : isXmlChar '\r' = true := by decide
  have hfeed : isXmlChar '\n' = true := by decide
  fun_induction normalizeBreaks s with
  | case1 => rfl
  | case2 s ih => rw [ih, List.all_cons (a := '\r'), hreturn, Bool.true_and]
  | case3 s hs ih => rw [List.all_cons, List.all_cons, ih, hreturn, hfeed]
  | case4 c s hc ih => rw [List.all_cons, List.all_cons, ih]

/-- A document has no illegal character. -/
theorem isXmlChar_of_readChars? {s : List Char} {e : Element} (h : readChars? s = some e) :
    ∀ c ∈ s, isXmlChar c = true := by
  have hmark : isXmlChar '\uFEFF' = true := by decide
  suffices hall : s.all isXmlChar = true from List.all_eq_true.1 hall
  by_contra hnot
  rw [Bool.not_eq_true] at hnot
  rw [readChars?.eq_def] at h
  split at h
  · next t =>
    rw [List.all_cons, hmark, Bool.true_and] at hnot
    simp [all_isXmlChar_normalizeBreaks, hnot] at h
  · simp [all_isXmlChar_normalizeBreaks, hnot] at h

/-! ## Tidy elements -/

/-- Names that the attributes of one tag can have. -/
def ArePlainNames (names : List String) : Prop :=
  (∀ name ∈ names, IsSimpleName name.toList ∧ name ≠ "xmlns") ∧ names.Nodup

instance (names : List String) : Decidable (ArePlainNames names) :=
  inferInstanceAs (Decidable (_ ∧ _))

namespace Element

/-- An element whose names and character data can be written. -/
structure IsTidy (e : Element) : Prop where
  tag : IsSimpleName e.tag.toList
  names : ArePlainNames (e.attributes.map Prod.fst)
  text : ∀ c ∈ e.text.toList, isPlainTextChar c = true

/-- An element whose attributes have values that a document can hold. -/
def HasLegalValues (e : Element) : Prop :=
  ∀ value ∈ e.attributes.map Prod.snd, IsLegal value

theorem arePlainAttributes_iff {attributes : List (String × String)} :
    ArePlainAttributes attributes ↔
      ArePlainNames (attributes.map Prod.fst) ∧
        ∀ value ∈ attributes.map Prod.snd, IsLegal value := by
  simp only [ArePlainNames, List.forall_mem_map]
  constructor
  · intro h
    exact ⟨⟨fun a ha => ⟨h.simple a ha, h.undeclaring a ha⟩, h.nodup⟩, h.legal⟩
  · rintro ⟨⟨hnames, hnodup⟩, hlegal⟩
    exact ⟨fun a ha => (hnames a ha).1, fun a ha => (hnames a ha).2, hnodup, hlegal⟩

mutual

theorem isPlain_iff_all :
    ∀ e : Element, e.IsPlain ↔ e.All fun d => d.IsTidy ∧ d.HasLegalValues
  | mk tag attributes text es => by
      rw [IsPlain, all_mk, isPlainForest_iff_all es, arePlainAttributes_iff]
      constructor
      · rintro ⟨htag, ⟨hnames, hlegal⟩, htext, hes⟩
        exact ⟨⟨⟨htag, hnames, htext⟩, hlegal⟩, hes⟩
      · rintro ⟨⟨⟨htag, hnames, htext⟩, hlegal⟩, hes⟩
        exact ⟨htag, ⟨hnames, hlegal⟩, htext, hes⟩

theorem isPlainForest_iff_all :
    ∀ es : List Element, IsPlainForest es ↔
      ∀ e ∈ es, e.All fun d => d.IsTidy ∧ d.HasLegalValues
  | [] => by simp [IsPlainForest]
  | e :: es => by
      rw [IsPlainForest, isPlain_iff_all e, isPlainForest_iff_all es, List.forall_mem_cons]

end

theorem isPlain_iff {e : Element} : e.IsPlain ↔ e.All IsTidy ∧ e.All HasLegalValues :=
  (isPlain_iff_all e).trans All.and

/-! ## Values in the text of an element -/

theorem isXmlChar_of_attributeChar {c : Char} (h : ∀ d ∈ attributeChar c, isXmlChar d = true) :
    isXmlChar c = true := by
  have hall : ∀ c ∈ ['&', '<', '>', '"', '\r', '\n', '\t'], isXmlChar c = true := by decide
  by_cases hc : c ∈ ['&', '<', '>', '"', '\r', '\n', '\t']
  · exact hall c hc
  · simp only [List.mem_cons, List.not_mem_nil, or_false, not_or] at hc
    exact h c (by simp [attributeChar, hc])

theorem isLegal_of_tagOpening (tag : String) {attributes : List (String × String)}
    (h : ∀ c ∈ tagOpening tag attributes, isXmlChar c = true) :
    ∀ value ∈ attributes.map Prod.snd, IsLegal value := by
  rw [List.forall_mem_map]
  intro a ha c hc
  refine isXmlChar_of_attributeChar fun d hd => h d ?_
  refine List.mem_append_right _ (List.mem_flatMap.2 ⟨a, ha, ?_⟩)
  have hvalue : d ∈ a.2.toList.flatMap attributeChar := List.mem_flatMap.2 ⟨c, hc, hd⟩
  simp [attributeText, hvalue]

mutual

/-- If a written element has no illegal character, its attributes have none. -/
theorem all_hasLegalValues_of_spacedText (w : Spacing) (level : Nat) :
    ∀ e : Element, (∀ c ∈ e.spacedText w level, isXmlChar c = true) → e.All HasLegalValues
  | mk tag attributes text [], h => by
      refine all_mk.2 ⟨isLegal_of_tagOpening tag fun c hc => h c ?_, by simp⟩
      rw [spacedText]
      exact List.mem_append_left _ hc
  | mk tag attributes text (e :: es), h => by
      refine all_mk.2 ⟨isLegal_of_tagOpening tag fun c hc => h c ?_,
        all_hasLegalValues_of_spacedForest w (level + 1) (e :: es) fun c hc => h c ?_⟩
      · rw [spacedText, List.append_assoc, List.append_assoc]
        exact List.mem_append_left _ hc
      · simp [spacedText, hc]

theorem all_hasLegalValues_of_spacedForest (w : Spacing) (level : Nat) :
    ∀ es : List Element, (∀ c ∈ spacedForest w level es, isXmlChar c = true) →
      ∀ e ∈ es, e.All HasLegalValues
  | [], _ => by simp
  | e :: es, h => by
      rw [List.forall_mem_cons]
      constructor
      · refine all_hasLegalValues_of_spacedText w level e fun c hc => h c ?_
        simp [spacedForest, hc]
      · refine all_hasLegalValues_of_spacedForest w level es fun c hc => h c ?_
        simp [spacedForest, hc]

end

end Element

/-! ## Documents -/

theorem readChars?_spacedText_eq_none {e : Element} (h : ¬ e.All Element.HasLegalValues)
    (w : Spacing) : readChars? (e.spacedText w 0) = none := by
  rw [Option.eq_none_iff_forall_ne_some]
  intro d hd
  exact h (Element.all_hasLegalValues_of_spacedText w 0 e (isXmlChar_of_readChars? hd))

/-- A value that is not legal makes the written element unreadable. -/
theorem read?_indented_eq_none {e : Element} (h : ¬ e.All Element.HasLegalValues) :
    read? e.indented = none := by
  rw [read?, Element.indented, String.toList_ofList, ← Element.spacedText_lines]
  exact readChars?_spacedText_eq_none h .lines

theorem read?_inline_eq_none {e : Element} (hunmixed : e.All Element.IsUnmixed)
    (h : ¬ e.All Element.HasLegalValues) : read? e.inline = none := by
  rw [read?, Element.inline, String.toList_ofList, ← Element.spacedText_tight 0 e hunmixed]
  exact readChars?_spacedText_eq_none h .tight

end DiagramBridge.Xml
