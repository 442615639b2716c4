import DiagramBridge.Proofs.Text.LineBreak
import DiagramBridge.Xml.Reader

/-!
# How documents begin

A document begins with markup. White space or a byte-order mark may stand in front, but where
anything else does, what is there is read as character data outside the root, and there is no such
thing. Which line breaks a document has makes no difference.
-/

namespace DiagramBridge.Xml

open Text

/-! ## Line breaks -/

theorem normalizeBreaks_eq_unifyLineBreaks (s : List Char) :
    normalizeBreaks s = unifyLineBreaks s := by
  fun_induction normalizeBreaks s with
  | case1 => rfl
  | case2 s ih =>
      rw [ih, unifyLineBreaks_cons '\r']
      rfl
  | case3 s hs ih =>
      have hnext : s.head? ≠ some '\n' := by
        cases s with
        | nil => simp
        | cons d t =>
            rintro h
            exact hs t (by rw [Option.some.inj h])
      rw [ih, unifyLineBreaks_cons, unifiedChar, if_pos rfl, if_neg hnext, List.singleton_append]
  | case4 c s hc ih => rw [ih, unifyLineBreaks_cons_of_ne hc]

/-- A text without the byte-order mark at its front. -/
def withoutMark : List Char → List Char
  | '\uFEFF' :: s => s
  | s => s

theorem withoutMark_cons_of_ne {c : Char} (hc : c ≠ '\uFEFF') (s : List Char) :
    withoutMark (c :: s) = c :: s := by
  rw [withoutMark.eq_def]
  split
  · next heq => exact absurd (List.cons.inj heq).1 hc
  · rfl

theorem withoutMark_unifyLineBreaks (s : List Char) :
    withoutMark (unifyLineBreaks s) = unifyLineBreaks (withoutMark s) := by
  cases s with
  | nil => rfl
  | cons c s =>
      by_cases hc : c = '\uFEFF'
      · subst hc
        rw [unifyLineBreaks_cons_of_ne (by decide)]
        rfl
      · rw [withoutMark_cons_of_ne hc]
        by_cases hreturn : c = '\r'
        · subst hreturn
          obtain ⟨t, ht⟩ := exists_unifyLineBreaks_return s
          rw [ht, withoutMark_cons_of_ne (by decide)]
        · rw [unifyLineBreaks_cons_of_ne hreturn, withoutMark_cons_of_ne hc]

/-- Reads a document that has line feeds for line breaks and no byte-order mark. -/
def readNormal? (s : List Char) : Option Element :=
  if !s.all isXmlChar then none
  else do
    let (d, s) ← declarations? s
    let (ts, rest) ← Token.scan? (s.length + 1) 0 s
    let ts ← expandTokens? d d.maxDepth ts
    let root ← build? d [] ts
    if isEpilog (rest.length + 1) rest then some root else none

theorem readChars?_eq (s : List Char) :
    readChars? s = readNormal? (unifyLineBreaks (withoutMark s)) := by
  rw [← normalizeBreaks_eq_unifyLineBreaks]
  rfl

/-- A document is the same with line feeds for line breaks of every kind. -/
theorem readChars?_unifyLineBreaks (s : List Char) :
    readChars? (unifyLineBreaks s) = readChars? s := by
  rw [readChars?_eq, readChars?_eq, withoutMark_unifyLineBreaks, unifyLineBreaks_unifyLineBreaks]

/-! ## The first character -/

/-- A character or a reference. -/
def Token.IsText (t : Token) : Prop :=
  (∃ c, t = .char c) ∨ ∃ name, t = .entity name

theorem isText_of_reference? {s rest : List Char} {t : Token} (h : reference? s = some (t, rest)) :
    t.IsText := by
  rw [reference?.eq_def] at h
  split at h
  · obtain ⟨⟨c, u⟩, -, heq⟩ := Option.map_eq_some_iff.1 h
    exact Or.inl ⟨c, (Prod.mk.inj heq).1.symm⟩
  · simp only [Option.bind_eq_bind, Option.bind_eq_some_iff] at h
    obtain ⟨⟨name, u⟩, -, v, -, h⟩ := h
    split at h
    · next d _ => exact Or.inl ⟨d, (Prod.mk.inj (Option.some.inj h)).1.symm⟩
    · exact Or.inr ⟨name, (Prod.mk.inj (Option.some.inj h)).1.symm⟩

/-- What is no markup at the front of a text is a single character or a reference. -/
theorem exists_text_of_token? {c : Char} (hc : c ≠ '<') {s rest : List Char} {ts : List Token}
    (h : token? (c :: s) = some (ts, rest)) : ∃ t, ts = [t] ∧ t.IsText := by
  by_cases hreference : c = '&'
  · subst hreference
    obtain ⟨⟨t, u⟩, ht, heq⟩ := Option.map_eq_some_iff.1 h
    obtain ⟨rfl, -⟩ := Prod.mk.inj heq
    exact ⟨t, rfl, isText_of_reference? ht⟩
  · rw [token?.eq_7 c s (fun _ h _ => hc h) (fun _ h _ => hc h) (fun _ h _ => hc h) hc
      hreference] at h
    split_ifs at h
    obtain ⟨rfl, -⟩ := Prod.mk.inj (Option.some.inj h)
    exact ⟨_, rfl, Or.inl ⟨c, rfl⟩⟩

theorem Token.IsText.depth?_eq {t : Token} (ht : t.IsText) (depth : Nat) :
    Token.depth? depth t = some depth := by
  rcases ht with ⟨c, rfl⟩ | ⟨name, rfl⟩ <;> rfl

/-- A text that begins with no markup has one token before the root could begin. -/
theorem exists_text_of_scan? {c : Char} (hc : c ≠ '<') {fuel : Nat} {s rest : List Char}
    {ts : List Token} (h : Token.scan? (fuel + 1) 0 (c :: s) = some (ts, rest)) :
    ∃ t, ts = [t] ∧ t.IsText := by
  rw [Token.scan?] at h
  simp only [Option.bind_eq_bind, Option.bind_eq_some_iff] at h
  obtain ⟨⟨first, u⟩, htoken, depth, hdepth, h⟩ := h
  obtain ⟨t, rfl, ht⟩ := exists_text_of_token? hc htoken
  have hzero : depth = 0 := by
    rw [Token.depthAfter?, List.foldlM_cons, ht.depth?_eq] at hdepth
    exact (Option.some.inj hdepth).symm
  rw [if_pos hzero] at h
  obtain ⟨rfl, -⟩ := Prod.mk.inj (Option.some.inj h)
  exact ⟨t, rfl, ht⟩

/-- Where nothing is declared, a reference is replaced by nothing. -/
theorem expandTokens?_text {t : Token} (ht : t.IsText) {ts : List Token}
    (h : expandTokens? {} 1 [t] = some ts) : ts = [t] := by
  rcases ht with ⟨c, rfl⟩ | ⟨name, rfl⟩
  · exact (Option.some.inj h).symm
  · exact absurd h (by simp [expandTokens?])

/-- Outside the root there is no text. -/
theorem build?_text {t : Token} (ht : t.IsText) (d : Declarations) (ts : List Token) :
    build? d [] (t :: ts) = none := by
  rcases ht with ⟨c, rfl⟩ | ⟨name, rfl⟩ <;> rfl

theorem isSpace_of_not_blank {c : Char} (hc : isBlank c = false) : isSpace c = false := by
  rw [Bool.eq_false_iff]
  intro h
  simp only [isSpace, Bool.or_eq_true, decide_eq_true_eq] at h
  rcases h with ((rfl | rfl) | rfl) | rfl
  all_goals exact absurd hc (by decide)

/-- Where no markup begins, nothing is declared. -/
theorem declarations?_of_ne {c : Char} (hc : c ≠ '<') (hblank : isBlank c = false)
    (s : List Char) : declarations? (c :: s) = some ({}, c :: s) := by
  have hxml : after? "<?xml" (c :: s) = none := by
    rw [after?_eq_none_iff]
    rintro ⟨t, ht⟩
    exact hc (List.cons.inj ht).1.symm
  have hskip : skipSpace (c :: s) = c :: s := by
    simp [skipSpace, isSpace_of_not_blank hblank]
  rw [declarations?, hxml]
  dsimp only
  rw [prolog?.eq_2, hskip]
  split
  · next heq => exact absurd (List.cons.inj heq).1 hc
  · next heq => exact absurd (List.cons.inj heq).1 hc
  · rfl

/-- What is neither white space nor a byte-order mark and begins a document begins its markup. -/
theorem eq_lt_of_readChars? {c : Char} {s : List Char} {e : Element}
    (h : readChars? (c :: s) = some e) (hmark : c ≠ '\uFEFF') (hblank : isBlank c = false) :
    c = '<' := by
  by_contra hc
  rw [readChars?_eq, withoutMark_cons_of_ne hmark,
    unifyLineBreaks_cons_of_ne (ne_return_of_not_blank hblank), readNormal?] at h
  split_ifs at h
  simp only [declarations?_of_ne hc hblank, Option.bind_eq_bind, Option.bind_some,
    Option.bind_eq_some_iff] at h
  obtain ⟨⟨ts, rest⟩, hscan, ts', hexpand, root, hbuild, -⟩ := h
  obtain ⟨t, rfl, ht⟩ := exists_text_of_scan? hc hscan
  rw [expandTokens?_text ht hexpand, build?_text ht] at hbuild
  exact absurd hbuild (by simp)

end DiagramBridge.Xml
