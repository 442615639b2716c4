import DiagramBridge.Proofs.Xml.Tag
import DiagramBridge.Proofs.Xml.Tree
import DiagramBridge.Xml.Reader

/-!
# Scanning a written element

An element that is plain is written as a row of tokens, and scanning the text of the element gives
that row. `Scans depth s ts depth' rest` says that scanning at a depth reads the tokens `ts` from
the front of `s` and goes on with `rest` at another depth, or ends there if nothing is open any
more; the number of steps is left open, because it is never more than the characters read. Such
stretches can be put one behind the other, so the proof follows the tree.
-/

namespace DiagramBridge.Xml

open Text

/-- Attributes that can be written in any tag: distinct names that declare no namespace, and values
of characters that a document may have. -/
structure ArePlainAttributes (attributes : List (String × String)) : Prop where
  simple : ∀ a ∈ attributes, IsSimpleName a.1.toList
  undeclaring : ∀ a ∈ attributes, a.1 ≠ "xmlns"
  nodup : (attributes.map (·.1)).Nodup
  legal : ∀ a ∈ attributes, ∀ c ∈ a.2.toList, isXmlChar c = true

/-- A character that character data can have as it is, or by the name of a markup character. -/
def isPlainTextChar (c : Char) : Bool :=
  isXmlChar c && c != '\r' && c != ']'

namespace Element

mutual

/-- An element whose names need no namespace and whose texts need no further escaping. -/
def IsPlain : Element → Prop
  | mk tag attributes text children =>
    IsSimpleName tag.toList ∧ ArePlainAttributes attributes ∧
      (∀ c ∈ text.toList, isPlainTextChar c = true) ∧ IsPlainForest children

def IsPlainForest : List Element → Prop
  | [] => True
  | e :: es => e.IsPlain ∧ IsPlainForest es

end

end Element

/-! ## Spacing -/

/-- The white space that is written between tags at every level of nesting: in front of each child
of an element, and behind its last child. -/
structure Spacing where
  gap : Nat → List Char
  isSpace : ∀ level, ∀ c ∈ gap level, c = '\n' ∨ c = ' '

/-- Every element stands on a line of its own. -/
def Spacing.lines : Spacing where
  gap := Element.lineBreak
  isSpace level c hc := by
    rcases List.mem_cons.1 hc with rfl | hc
    · exact .inl rfl
    · exact .inr (List.eq_of_mem_replicate hc)

/-- All elements stand on one line. -/
def Spacing.tight : Spacing where
  gap _ := []
  isSpace := by simp

namespace Element

mutual

/-- An element at a level of nesting, with spacing. If it has children, its character data is left
out. -/
def spacedText (w : Spacing) (level : Nat) : Element → List Char
  | mk tag attributes text children =>
    match children with
    | [] =>
      tagOpening tag attributes ++
        if text = "" then " />".toList else '>' :: text.toList.flatMap textChar ++ endTagText tag
    | _ :: _ =>
      tagOpening tag attributes ++ '>' :: spacedForest w (level + 1) children ++ w.gap level ++
        endTagText tag

/-- Several elements at a level of nesting, with spacing. -/
def spacedForest (w : Spacing) (level : Nat) : List Element → List Char
  | [] => []
  | e :: es => w.gap level ++ e.spacedText w level ++ spacedForest w level es

end

mutual

theorem spacedText_lines (level : Nat) :
    ∀ e : Element, e.spacedText .lines level = e.indentedText level
  | mk tag attributes text [] => by rw [spacedText, indentedText]
  | mk tag attributes text (e :: es) => by
      rw [spacedText, indentedText, spacedForest_lines (level + 1) (e :: es)]
      rfl

theorem spacedForest_lines (level : Nat) :
    ∀ es : List Element, spacedForest .lines level es = indentedForest level es
  | [] => rfl
  | e :: es => by
      rw [spacedForest, indentedForest, spacedText_lines level e, spacedForest_lines level es]
      rfl

end

/-- An element that has character data or children, but not both. -/
def IsUnmixed (e : Element) : Prop :=
  e.text = "" ∨ e.children = []

mutual

/-- Written on one line, an element keeps its character data; with unmixed elements there is none to
leave out. -/
theorem spacedText_tight (level : Nat) :
    ∀ e : Element, e.All IsUnmixed → e.spacedText .tight level = e.inlineText
  | mk tag attributes text [], _ => by
      by_cases hempty : text = ""
      · simp [spacedText, inlineText, hempty]
      · simp [spacedText, inlineText, inlineForest, hempty]
  | mk tag attributes text (e :: es), h => by
      obtain ⟨hself, hes⟩ := all_mk.1 h
      have htext : text = "" := hself.resolve_right (by simp [children])
      rw [spacedText, inlineText, spacedForest_tight (level + 1) (e :: es) hes]
      simp [htext, Spacing.tight]

theorem spacedForest_tight (level : Nat) :
    ∀ es : List Element, (∀ e ∈ es, e.All IsUnmixed) →
      spacedForest .tight level es = inlineForest es
  | [], _ => rfl
  | e :: es, h => by
      rw [spacedForest, inlineForest, spacedText_tight level e (h e (by simp)),
        spacedForest_tight level es fun d hd => h d (by simp [hd])]
      rfl

end

mutual

/-- The tokens of an element that is written at a level of nesting. -/
def tokensAt (w : Spacing) (level : Nat) : Element → List Token
  | mk tag attributes text children =>
    let start := Token.startTag (plainName tag) (attributes.map writtenAttribute)
    match children with
    | [] =>
      if text = "" then [start true]
      else start false :: (text.toList.map .char ++ [.endTag (plainName tag)])
    | _ :: _ =>
      start false :: (forestTokensAt w (level + 1) children ++
        ((w.gap level).map .char ++ [.endTag (plainName tag)]))

/-- The tokens of several elements, each behind its gap. -/
def forestTokensAt (w : Spacing) (level : Nat) : List Element → List Token
  | [] => []
  | e :: es => (w.gap level).map .char ++ (tokensAt w level e ++ forestTokensAt w level es)

end

end Element

/-! ## Stretches of a scan -/

/-- Scanning at a depth reads tokens from the front of a text and goes on with the rest. -/
def Scans (depth : Nat) (s : List Char) (ts : List Token) (depth' : Nat) (rest : List Char) :
    Prop :=
  ∃ k, rest.length + k ≤ s.length ∧ ∀ fuel,
    Token.scan? (fuel + k) depth s =
      if depth' = 0 then some (ts, rest)
      else (Token.scan? fuel depth' rest).map fun p => (ts ++ p.1, p.2)

theorem Scans.nil {depth : Nat} (h : depth ≠ 0) (s : List Char) : Scans depth s [] depth s := by
  refine ⟨0, Nat.le_refl _, fun fuel => ?_⟩
  rw [if_neg h]
  cases Token.scan? fuel depth s <;> simp

theorem Scans.trans {d₀ d₁ d₂ : Nat} {s₀ s₁ s₂ : List Char} {ts us : List Token}
    (h₁ : d₁ ≠ 0) (hs : Scans d₀ s₀ ts d₁ s₁) (hu : Scans d₁ s₁ us d₂ s₂) :
    Scans d₀ s₀ (ts ++ us) d₂ s₂ := by
  obtain ⟨k, hk, hs⟩ := hs
  obtain ⟨l, hl, hu⟩ := hu
  refine ⟨l + k, by omega, fun fuel => ?_⟩
  rw [← Nat.add_assoc, hs, if_neg h₁, hu]
  by_cases h₂ : d₂ = 0
  · rw [if_pos h₂, if_pos h₂]
    rfl
  · rw [if_neg h₂, if_neg h₂, Option.map_map]
    simp [Function.comp_def]

/-- One construct is a stretch. -/
theorem Scans.of_token {depth depth' : Nat} {s rest : List Char} {ts : List Token}
    (ht : token? s = some (ts, rest)) (hd : Token.depthAfter? depth ts = some depth')
    (hlen : rest.length < s.length) : Scans depth s ts depth' rest := by
  refine ⟨1, hlen, fun fuel => ?_⟩
  rw [Token.scan?, ht]
  simp only [bind, Option.bind, hd]
  by_cases h : depth' = 0
  · rw [if_pos h, if_pos h]
  · rw [if_neg h, if_neg h]
    cases Token.scan? fuel depth' rest <;> rfl

/-! ## Character data -/

theorem token?_char {c : Char} (hlt : c ≠ '<') (hamp : c ≠ '&') (s : List Char) :
    token? (c :: s) = if startsWith "]]>" (c :: s) then none else some ([.char c], s) :=
  token?.eq_7 c s (fun _ h _ => hlt h) (fun _ h _ => hlt h) (fun _ h _ => hlt h) hlt hamp

theorem token?_textChar {c : Char} (hc : isPlainTextChar c = true) (rest : List Char) :
    token? (textChar c ++ rest) = some ([.char c], rest) := by
  unfold textChar
  split_ifs with hamp hlt hgt
  · subst hamp
    rfl
  · subst hlt
    rfl
  · subst hgt
    rfl
  · have hbracket : ¬ startsWith "]]>" (c :: rest) = true := by
      intro h
      obtain ⟨t, ht⟩ := startsWith_iff.1 h
      obtain rfl : ']' = c := (List.cons.inj ht).1
      exact absurd hc (by decide)
    rw [List.singleton_append, token?_char hlt hamp, if_neg hbracket]

theorem textChar_ne_nil (c : Char) : textChar c ≠ [] := by
  unfold textChar
  split_ifs
  · decide
  · decide
  · decide
  · simp

theorem scans_text {depth : Nat} (hd : depth ≠ 0) {s : List Char}
    (hs : ∀ c ∈ s, isPlainTextChar c = true) (rest : List Char) :
    Scans depth (s.flatMap textChar ++ rest) (s.map .char) depth rest := by
  induction s with
  | nil => exact Scans.nil hd rest
  | cons c s ih =>
      have hlen := List.length_pos_of_ne_nil (textChar_ne_nil c)
      rw [List.flatMap_cons, List.append_assoc, List.map_cons, ← List.singleton_append]
      refine Scans.trans hd (Scans.of_token (token?_textChar (hs c (by simp)) _) rfl ?_)
        (ih fun d hd => hs d (by simp [hd]))
      simp only [List.length_append]
      omega

theorem Spacing.isPlainTextChar_of_mem (w : Spacing) {level : Nat} {c : Char}
    (hc : c ∈ w.gap level) : isPlainTextChar c = true := by
  rcases w.isSpace level c hc with rfl | rfl <;> decide

theorem Spacing.flatMap_textChar_gap (w : Spacing) (level : Nat) :
    (w.gap level).flatMap textChar = w.gap level := by
  rw [List.flatMap_congr (g := fun c => [c]), List.flatMap_singleton']
  intro c hc
  rcases w.isSpace level c hc with rfl | rfl <;> rfl

theorem scans_gap {depth : Nat} (hd : depth ≠ 0) (w : Spacing) (level : Nat) (rest : List Char) :
    Scans depth (w.gap level ++ rest) ((w.gap level).map .char) depth rest := by
  have h := scans_text hd (fun c (hc : c ∈ w.gap level) => w.isPlainTextChar_of_mem hc) rest
  rwa [w.flatMap_textChar_gap] at h

/-! ## Tags -/

theorem token?_lessThan {c : Char} (hc : c ∉ ['/', '?', '!']) (s : List Char) :
    token? ('<' :: c :: s) = (startTag? (c :: s)).map fun (t, s) => ([t], s) := by
  have hne : ∀ d ∈ ['/', '?', '!'], ∀ t, c :: s = d :: t → False := fun d hd t heq =>
    ne_of_mem_of_not_mem hd hc (List.cons.inj heq).1.symm
  exact token?.eq_5 (c :: s) (hne '/' (by decide)) (hne '?' (by decide)) (hne '!' (by decide))

theorem token?_startTag (isEmpty : Bool) (rest : List Char) {tag : String}
    {attributes : List (String × String)} (htag : IsSimpleName tag.toList)
    (h : ∀ a ∈ attributes, IsSimpleName a.1.toList) :
    token? (tagOpening tag attributes ++ (tagEnd isEmpty ++ rest)) =
      some ([.startTag (plainName tag) (attributes.map writtenAttribute) isEmpty], rest) := by
  have hstart := startTag?_written isEmpty rest htag h
  obtain ⟨c, r, hcons, hc⟩ := head_of_isSimpleName htag
    (attributes.flatMap attributeText ++ tagEnd isEmpty ++ rest)
  have hshape : tagOpening tag attributes ++ (tagEnd isEmpty ++ rest) = '<' :: c :: r := by
    rw [← hcons]
    simp [tagOpening]
  have hmark : c ∉ ['/', '?', '!'] := by
    intro hmem
    simp only [List.mem_cons, List.not_mem_nil, or_false] at hmem
    rcases hmem with rfl | rfl | rfl <;> exact absurd hc (by decide)
  rw [List.append_assoc, List.append_assoc, ← List.append_assoc (attributes.flatMap _), hcons]
    at hstart
  rw [hshape, token?_lessThan hmark, hstart, Option.map_some]

theorem scans_startTag (depth : Nat) (isEmpty : Bool) (rest : List Char) {tag : String}
    {attributes : List (String × String)} (htag : IsSimpleName tag.toList)
    (h : ∀ a ∈ attributes, IsSimpleName a.1.toList) :
    Scans depth (tagOpening tag attributes ++ (tagEnd isEmpty ++ rest))
      [.startTag (plainName tag) (attributes.map writtenAttribute) isEmpty]
      (if isEmpty then depth else depth + 1) rest := by
  refine Scans.of_token (token?_startTag isEmpty rest htag h) rfl ?_
  simp only [tagOpening, List.length_append, List.length_cons]
  omega

theorem scans_endTag (depth : Nat) (rest : List Char) {tag : String}
    (htag : IsSimpleName tag.toList) :
    Scans (depth + 1) (endTagText tag ++ rest) [.endTag (plainName tag)] depth rest := by
  have hend := endTag?_written htag rest
  have hshape : endTagText tag ++ rest = '<' :: '/' :: (tag.toList ++ '>' :: rest) := by
    simp [endTagText]
  rw [hshape]
  refine Scans.of_token ?_ rfl ?_
  · rw [token?, hend]
    rfl
  · simp
    omega

/-! ## Elements -/

mutual

/-- Scanning a written element reads its tokens and comes back to the depth where it began. -/
theorem scans_spacedText (w : Spacing) (level depth : Nat) (rest : List Char) :
    ∀ e : Element, e.IsPlain →
      Scans depth (e.spacedText w level ++ rest) (e.tokensAt w level) depth rest
  | .mk tag attributes text [], h => by
      obtain ⟨htag, hattr, htext, -⟩ := h
      by_cases hempty : text = ""
      · have hs := scans_startTag depth true rest htag hattr.simple
        rw [Element.spacedText, Element.tokensAt, if_pos hempty]
        simpa [tagEnd, hempty] using hs
      · have hstart := scans_startTag depth false
          (text.toList.flatMap textChar ++ (endTagText tag ++ rest)) htag hattr.simple
        have hdata := scans_text (Nat.succ_ne_zero depth) htext (endTagText tag ++ rest)
        have hall := Scans.trans (Nat.succ_ne_zero depth) hstart
          (Scans.trans (Nat.succ_ne_zero depth) hdata (scans_endTag depth rest htag))
        rw [Element.spacedText, Element.tokensAt, if_neg hempty]
        simpa [tagEnd, hempty] using hall
  | .mk tag attributes text (e :: es), h => by
      obtain ⟨htag, hattr, -, hchildren⟩ := h
      have hstart := scans_startTag depth false
        (Element.spacedForest w (level + 1) (e :: es) ++
          (w.gap level ++ (endTagText tag ++ rest))) htag hattr.simple
      have hforest := scans_spacedForest w (level + 1) depth
        (w.gap level ++ (endTagText tag ++ rest)) (e :: es) hchildren
      have hbreak := scans_gap (Nat.succ_ne_zero depth) w level (endTagText tag ++ rest)
      have hall := Scans.trans (Nat.succ_ne_zero depth) hstart
        (Scans.trans (Nat.succ_ne_zero depth) hforest
          (Scans.trans (Nat.succ_ne_zero depth) hbreak (scans_endTag depth rest htag)))
      rw [Element.spacedText, Element.tokensAt]
      simpa [tagEnd] using hall

/-- The same for several elements, inside another one. -/
theorem scans_spacedForest (w : Spacing) (level depth : Nat) (rest : List Char) :
    ∀ es : List Element, Element.IsPlainForest es →
      Scans (depth + 1) (Element.spacedForest w level es ++ rest)
        (Element.forestTokensAt w level es) (depth + 1) rest
  | [], _ => Scans.nil (Nat.succ_ne_zero depth) rest
  | e :: es, h => by
      have hbreak := scans_gap (Nat.succ_ne_zero depth) w level
        (e.spacedText w level ++ (Element.spacedForest w level es ++ rest))
      have he := scans_spacedText w level (depth + 1)
        (Element.spacedForest w level es ++ rest) e h.1
      have hes := scans_spacedForest w level depth rest es h.2
      have hall := Scans.trans (Nat.succ_ne_zero depth) hbreak
        (Scans.trans (Nat.succ_ne_zero depth) he hes)
      rw [Element.spacedForest, Element.forestTokensAt]
      simpa using hall

end

end DiagramBridge.Xml
